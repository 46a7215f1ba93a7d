import DhcpLeasing.Proofs.Session.Following

/-!
# The records of a session

A session lists the addresses that it has probed, and keeps a log of its probes. Whatever is carried
out only adds to both, and the same to each: `Session.carryOut_adds`. So the probes of an allocation
that a session follows are found in its log, in their order, with the answers of its prober, who
knows what has been probed before: `Session.Follows.recorded`, and `Session.Completes.recorded` for
an allocation that is over. Among them are the probes that were made meanwhile.
-/

namespace DhcpLeasing

variable {W C K R : Type}

/-- The answer of a prober when the addresses in `probed` have been probed before. One that comes
after the probe timeout is none. -/
def Prober.answer (prober : Prober C) (probeTimeout : ℕ) (probed : List IpAddr) (ip : IpAddr) :
    Bool :=
  (prober probed ip).busy && (prober probed ip).delay ≤ probeTimeout

/-- The address that an allocation waits for, if it does. -/
def Activity.awaited : Activity K R → Option IpAddr
  | replied _ => none
  | .waiting _ p => some p.ip

namespace Session

/-- The addresses of some records, the last one first. -/
def probedIn (records : List (ProbeRecord R)) : List IpAddr :=
  (records.map (·.ip)).reverse

lemma probedIn_append (records records' : List (ProbeRecord R)) :
    probedIn (records ++ records') = probedIn records' ++ probedIn records := by
  simp [probedIn]

/-- What a part of a session adds to the log, and to the list of addresses that have been probed. -/
structure Adds (s : Session W C R) (records : List (ProbeRecord R)) (s' : Session W C R) :
    Prop where
  log_eq : s'.log = s.log ++ records
  probed_eq : s'.probed = probedIn records ++ s.probed

/-- The records of an allocation's probes, with those of what was probed meanwhile. The probes that
were answered are listed with their answers, the last one first. One more may have been `cut` short.
A prober that has nothing carried out leaves no other records. `before` are the addresses that were
probed before. -/
inductive Recorded (prober : Prober C) (probeTimeout : ℕ) (before : List IpAddr) :
    (probes : List (IpAddr × Bool)) → (cut : Option IpAddr) → List (ProbeRecord R) → Prop
  | nil : Recorded prober probeTimeout before [] none []
  | answered {probes : List (IpAddr × Bool)} {records meanwhile : List (ProbeRecord R)}
      {ip : IpAddr} {busy : Bool} {replies : List R}
      (h : Recorded prober probeTimeout before probes none records)
      (busy_eq : busy = prober.answer probeTimeout (probedIn records ++ before) ip)
      (silent : (prober (probedIn records ++ before) ip).meanwhile = [] →
        replies = [] ∧ meanwhile = []) :
      Recorded prober probeTimeout before ((ip, busy) :: probes) none
        (records ++ ⟨ip, some busy, some replies⟩ :: meanwhile)
  | cutShort {probes : List (IpAddr × Bool)} {records meanwhile : List (ProbeRecord R)}
      {ip : IpAddr} (h : Recorded prober probeTimeout before probes none records)
      (silent : (prober (probedIn records ++ before) ip).meanwhile = [] → meanwhile = []) :
      Recorded prober probeTimeout before probes (some ip)
        (records ++ ⟨ip, none, none⟩ :: meanwhile)

/-- What it means that a session has the probes of an allocation on record that has taken it from
`s` to `s'`. -/
def Records (prober : Prober C) (probeTimeout : ℕ) (s : Session W C R)
    (probes : List (IpAddr × Bool)) (cut : Option IpAddr) (s' : Session W C R) : Prop :=
  ∃ records, s.Adds records s' ∧ Recorded prober probeTimeout s.probed probes cut records

/-- How a session carries out a command: the probes that have been answered, the one that has been
cut short, and what has come of the command. -/
def Completes (w : World W C K R) (depth : ℕ) (outer : List (Option ℕ)) (c : C)
    (s : Session W C R) (probes : List (IpAddr × Bool)) (cut : Option IpAddr)
    (r : Except (Fin outer.length) R × Session W C R) : Prop :=
  ∃ activity s', Follows w (probing w depth outer) (w.submit c s.world).1
      (s.setWorld (w.submit c s.world).2) probes activity s' ∧
    activity.awaited = cut ∧ Ends w (probing w depth outer) activity s' r

variable {w : World W C K R} {depth : ℕ} {outer : List (Option ℕ)} {s s' s₁ : Session W C R}
  {records records' : List (ProbeRecord R)} {p : Pending} {prober : Prober C} {probeTimeout : ℕ}
  {probes : List (IpAddr × Bool)} {cut : Option IpAddr} {activity activity' : Activity K R}

/-! ## What is added -/

lemma Adds.refl (s : Session W C R) : s.Adds [] s :=
  ⟨(List.append_nil _).symm, rfl⟩

lemma Adds.trans (h : s.Adds records s₁) (h' : s₁.Adds records' s') :
    s.Adds (records ++ records') s' := by
  refine ⟨?_, ?_⟩
  · rw [h'.log_eq, h.log_eq, List.append_assoc]
  · rw [h'.probed_eq, h.probed_eq, probedIn_append, List.append_assoc]

lemma Adds.setWorld (h : s.Adds records s') (x : W) : s.Adds records (s'.setWorld x) :=
  ⟨h.log_eq, h.probed_eq⟩

lemma Adds.of_setWorld {x : W} (h : (s.setWorld x).Adds records s') : s.Adds records s' :=
  ⟨h.log_eq, h.probed_eq⟩

lemma beginProbe_adds (s : Session W C R) (ip : IpAddr) :
    s.Adds [⟨ip, none, none⟩] (s.beginProbe ip) :=
  ⟨rfl, rfl⟩

/-- The answer goes into the record that was made when the probe began. -/
lemma Adds.endProbe {ip : IpAddr} (h : s.Adds (⟨ip, none, none⟩ :: records) s') (busy : Bool)
    (replies : List R) :
    s.Adds (⟨ip, some busy, some replies⟩ :: records) (s'.endProbe s.log.length busy replies) := by
  refine ⟨?_, h.probed_eq⟩
  rw [Session.endProbe, h.log_eq, List.modify_eq_take_drop, List.take_left, List.drop_left]
  rfl

/-- Whether a part of a session only adds to its records. -/
def OnlyAdds {α : Type} (act : Session W C R → α × Session W C R) : Prop :=
  ∀ s : Session W C R, ∃ records, s.Adds records (act s).2

/-- Carrying out commands only adds to the records, and carrying out none adds nothing. -/
lemma carryOutAll_adds {ε : Type} {carryOut : C → Session W C R → Except ε R × Session W C R}
    (hcarryOut : ∀ c, OnlyAdds (carryOut c)) (cs : List C) (s : Session W C R) :
    ∃ records, s.Adds records (carryOutAll carryOut cs s).2 ∧ (cs = [] → records = []) := by
  induction cs generalizing s with
  | nil => exact ⟨[], .refl s, fun _ => rfl⟩
  | cons c rest ih =>
    obtain ⟨records, hfirst⟩ := hcarryOut c s
    rw [carryOutAll]
    split
    · next heq =>
      rw [heq] at hfirst
      exact ⟨records, hfirst, by simp⟩
    · next s₁ heq =>
      rw [heq] at hfirst
      obtain ⟨records', hrest, -⟩ := ih s₁
      refine ⟨records ++ records', ?_, by simp⟩
      split <;> next heq' =>
        rw [heq'] at hrest
        exact hfirst.trans hrest

section Probe

variable {carryOut : (deadlines : List (Option ℕ)) → C → Session W C R →
    Except (Fin deadlines.length) R × Session W C R}
  (hcarryOut : ∀ deadlines c, OnlyAdds (carryOut deadlines c))

include hcarryOut

/-- What a probe adds that is answered. -/
lemma probe_answered (hprober : s.prober = some prober) {busy : Bool}
    (h : probe w outer carryOut p s = (.ok busy, s')) :
    ∃ replies meanwhile, s.Adds (⟨p.ip, some busy, some replies⟩ :: meanwhile) s' ∧
      busy = prober.answer p.claim.probeTimeout s.probed p.ip ∧
      ((prober s.probed p.ip).meanwhile = [] → replies = [] ∧ meanwhile = []) := by
  simp only [probe, hprober] at h
  split at h
  · simp at h
  · split at h
    · simp at h
    · next replies s₁ heq =>
      obtain ⟨hbusy, rfl⟩ := Prod.mk.inj h
      obtain ⟨meanwhile, hadds, hnone⟩ := carryOutAll_adds
        (hcarryOut (p.claim.request.deadline :: outer)) (prober s.probed p.ip).meanwhile _
      rw [heq] at hadds
      have hbegun := ((s.beginProbe_adds p.ip).setWorld _).trans hadds
      obtain rfl := Except.ok.inj hbusy
      refine ⟨replies, meanwhile, hbegun.endProbe _ replies, rfl, ?_⟩
      intro hsilent
      rw [hsilent] at heq
      obtain ⟨hreplies, -⟩ := Prod.mk.inj heq
      exact ⟨(Except.ok.inj hreplies).symm, hnone hsilent⟩

/-- What a probe adds that is cut short. -/
lemma probe_cutShort (hprober : s.prober = some prober) {j : Fin (outer.length + 1)}
    (h : probe w outer carryOut p s = (.error j, s')) :
    ∃ meanwhile, s.Adds (⟨p.ip, none, none⟩ :: meanwhile) s' ∧
      ((prober s.probed p.ip).meanwhile = [] → meanwhile = []) := by
  simp only [probe, hprober] at h
  split at h
  · obtain ⟨-, rfl⟩ := Prod.mk.inj h
    exact ⟨[], (s.beginProbe_adds p.ip).setWorld _, fun _ => rfl⟩
  · split at h
    · next heq =>
      obtain ⟨-, rfl⟩ := Prod.mk.inj h
      obtain ⟨meanwhile, hadds, hnone⟩ := carryOutAll_adds
        (hcarryOut (p.claim.request.deadline :: outer)) (prober s.probed p.ip).meanwhile _
      rw [heq] at hadds
      exact ⟨meanwhile, ((s.beginProbe_adds p.ip).setWorld _).trans hadds, hnone⟩
    · simp at h

lemma probe_adds (p : Pending) : OnlyAdds (probe w outer carryOut p) := by
  intro s
  cases hprober : s.prober with
  | none => exact ⟨[], by simpa only [probe, hprober] using .refl s⟩
  | some prober =>
    rcases hprobe : probe w outer carryOut p s with ⟨busy | j, s'⟩
    · obtain ⟨meanwhile, hadds, -⟩ := probe_cutShort hcarryOut hprober hprobe
      exact ⟨_, hadds⟩
    · obtain ⟨replies, meanwhile, hadds, -⟩ := probe_answered hcarryOut hprober hprobe
      exact ⟨_, hadds⟩

end Probe

/-- An allocation is followed by steps that leave the records alone, and by probes. -/
lemma follow_adds {frames : ℕ}
    {probe : Pending → Session W C R → Except (Fin (frames + 1)) Bool × Session W C R}
    (hprobe : ∀ p, OnlyAdds (probe p)) (n : ℕ) (activity : Activity K R) :
    OnlyAdds (follow w probe n activity) := by
  intro s
  induction n generalizing activity s with
  | zero => cases activity <;> exact ⟨[], (Adds.refl s).setWorld _⟩
  | succ n ih =>
    cases activity with
    | replied reply => exact ⟨[], .refl s⟩
    | waiting key p =>
      obtain ⟨records, hadds⟩ := hprobe p s
      rw [follow]
      split
      · next busy s₁ heq =>
        rw [heq] at hadds
        obtain ⟨records', hrest⟩ := ih (w.resume key p busy s₁.world).1
          (s₁.setWorld (w.resume key p busy s₁.world).2)
        exact ⟨records ++ records', hadds.trans hrest.of_setWorld⟩
      · next s₁ heq =>
        rw [heq] at hadds
        exact ⟨records, hadds.setWorld _⟩
      · next s₁ heq =>
        rw [heq] at hadds
        exact ⟨records, hadds.setWorld _⟩

/-- Whatever is carried out only adds to the records. -/
theorem carryOut_adds (w : World W C K R) (depth : ℕ) (outer : List (Option ℕ)) (c : C) :
    OnlyAdds (carryOut w depth outer c) := by
  induction depth generalizing outer c with
  | zero =>
    intro s
    let free : Pending → Session W C R → Except (Fin (outer.length + 1)) Bool × Session W C R :=
      fun _ s => (.ok false, s)
    have hfree : ∀ p, OnlyAdds (free p) := fun _ s => ⟨[], .refl s⟩
    obtain ⟨records, hadds⟩ := follow_adds (w := w) hfree Allocation.maxProbes
      (w.submit c s.world).1 (s.setWorld (w.submit c s.world).2)
    exact ⟨records, hadds.of_setWorld⟩
  | succ depth ih =>
    intro s
    obtain ⟨records, hadds⟩ := follow_adds (w := w) (probe_adds ih) Allocation.maxProbes
      (w.submit c s.world).1 (s.setWorld (w.submit c s.world).2)
    exact ⟨records, hadds.of_setWorld⟩

/-! ## The probes of an allocation -/

/-- What is on record when an allocation has begun: nothing. -/
lemma Records.refl (prober : Prober C) (probeTimeout : ℕ) (s : Session W C R) :
    s.Records prober probeTimeout [] none s :=
  ⟨[], .refl s, .nil⟩

lemma Records.setWorld (h : s.Records prober probeTimeout probes cut s') (x : W) :
    s.Records prober probeTimeout probes cut (s'.setWorld x) := by
  obtain ⟨records, hadds, hrecorded⟩ := h
  exact ⟨records, hadds.setWorld x, hrecorded⟩

lemma Records.of_setWorld {x : W} (h : (s.setWorld x).Records prober probeTimeout probes cut s') :
    s.Records prober probeTimeout probes cut s' := by
  obtain ⟨records, hadds, hrecorded⟩ := h
  exact ⟨records, hadds.of_setWorld, hrecorded⟩

/-- A probe that is answered goes on record with its answer. -/
lemma Records.answered (h : s.Records prober p.claim.probeTimeout probes none s₁)
    (hprober : s₁.prober = some prober) {busy : Bool}
    (hprobe : probe w outer (carryOut w depth) p s₁ = (.ok busy, s')) :
    s.Records prober p.claim.probeTimeout ((p.ip, busy) :: probes) none s' := by
  obtain ⟨records, hadds, hrecorded⟩ := h
  obtain ⟨replies, meanwhile, hown, hbusy, hsilent⟩ :=
    probe_answered (carryOut_adds w depth) hprober hprobe
  rw [hadds.probed_eq] at hbusy hsilent
  exact ⟨_, hadds.trans hown, hrecorded.answered hbusy hsilent⟩

/-- A probe that is cut short goes on record without one. -/
lemma Records.cutShort (h : s.Records prober probeTimeout probes none s₁)
    (hprober : s₁.prober = some prober) {j : Fin (outer.length + 1)}
    (hprobe : probe w outer (carryOut w depth) p s₁ = (.error j, s')) :
    s.Records prober probeTimeout probes (some p.ip) s' := by
  obtain ⟨records, hadds, hrecorded⟩ := h
  obtain ⟨meanwhile, hown, hsilent⟩ := probe_cutShort (carryOut_adds w depth) hprober hprobe
  rw [hadds.probed_eq] at hsilent
  exact ⟨_, hadds.trans hown, hrecorded.cutShort hsilent⟩

/-- An allocation that a session follows has its probes on record, with their answers. -/
theorem Follows.recorded
    (h : Follows w (probing w (depth + 1) outer) activity s probes activity' s')
    (hprober : s.prober = some prober)
    (htimeout : ∀ {probes key p s'},
      Follows w (probing w (depth + 1) outer) activity s probes (.waiting key p) s' →
        p.claim.probeTimeout = probeTimeout) :
    s.Records prober probeTimeout probes none s' := by
  induction h with
  | refl => exact .refl prober probeTimeout s
  | @answered probes key p s₁ s₂ busy hbefore hprobe ih =>
    have hprober₁ : s₁.prober = some prober := hbefore.prober_eq.trans hprober
    rw [← htimeout hbefore] at ih ⊢
    exact (ih.answered hprober₁ hprobe).setWorld _

/-- So has one that is over. A probe that has been cut short is on record without an answer. -/
theorem Completes.recorded {c : C} {r : Except (Fin outer.length) R × Session W C R}
    (h : Completes w (depth + 1) outer c s probes cut r) (hprober : s.prober = some prober)
    (htimeout : ∀ {probes key p s'}, Follows w (probing w (depth + 1) outer) (w.submit c s.world).1
      (s.setWorld (w.submit c s.world).2) probes (.waiting key p) s' →
        p.claim.probeTimeout = probeTimeout) :
    s.Records prober probeTimeout probes cut r.2 := by
  obtain ⟨activity, s₁, hfollows, rfl, hends⟩ := h
  have hrecords : s.Records prober probeTimeout probes none s₁ :=
    .of_setWorld (hfollows.recorded hprober htimeout)
  have hprober₁ : s₁.prober = some prober := hfollows.prober_eq.trans hprober
  cases hends with
  | replied reply => exact hrecords
  | expired hprobe => exact (hrecords.cutShort hprober₁ hprobe).setWorld _
  | withdrawn hprobe => exact (hrecords.cutShort hprober₁ hprobe).setWorld _

end Session

end DhcpLeasing
