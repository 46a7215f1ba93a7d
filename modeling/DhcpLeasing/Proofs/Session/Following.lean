import DhcpLeasing.Proofs.Session
import DhcpLeasing.Proofs.Session.Deadlines

/-!
# How a session follows an allocation

`Session.follow` goes from one probe of an allocation to the next. `Session.Follows` says how far it
has got after some of them, and with which answers, so that what happens on the way can be spoken
of:

* `Session.exists_follows`: whatever comes of following an allocation, the session has got from
  probe to probe to where the allocation has ended;
* `Session.follow_of_follows`: from there on it goes on as if it had begun there.

`Session.Spared` says of an allocation that its probes leave the world alone, as far as it can be
seen in a certain view.
-/

namespace DhcpLeasing.Session

variable {W C K R : Type} {w : World W C K R} {frames : ℕ}
  {probe : Pending → Session W C R → Except (Fin (frames + 1)) Bool × Session W C R}
  {activity activity' : Activity K R} {s s' : Session W C R} {probes : List (IpAddr × Bool)}

/-- How far a session that follows an allocation has got when some of its probes have been answered.
These are listed with their answers, the last one first. -/
inductive Follows (w : World W C K R)
    (probe : Pending → Session W C R → Except (Fin (frames + 1)) Bool × Session W C R)
    (activity : Activity K R) (s : Session W C R) :
    (probes : List (IpAddr × Bool)) → Activity K R → Session W C R → Prop
  | refl : Follows w probe activity s [] activity s
  | answered {probes : List (IpAddr × Bool)} {key : K} {p : Pending} {s₁ s₂ : Session W C R}
      {busy : Bool} (h : Follows w probe activity s probes (.waiting key p) s₁)
      (hprobe : probe p s₁ = (.ok busy, s₂)) :
      Follows w probe activity s ((p.ip, busy) :: probes) (w.resume key p busy s₂.world).1
        (s₂.setWorld (w.resume key p busy s₂.world).2)

/-- What ends an allocation that a session follows: its reply, or a deadline during a probe, its own
or that of an outer allocation. -/
inductive Ends (w : World W C K R)
    (probe : Pending → Session W C R → Except (Fin (frames + 1)) Bool × Session W C R) :
    Activity K R → Session W C R → Except (Fin frames) R × Session W C R → Prop
  | replied (reply : R) (s : Session W C R) : Ends w probe (.replied reply) s (.ok reply, s)
  | expired {key : K} {p : Pending} {s s' : Session W C R} {h : 0 < frames + 1}
      (hprobe : probe p s = (.error ⟨0, h⟩, s')) :
      Ends w probe (.waiting key p) s
        (.ok (w.expire key p s'.world).1, s'.setWorld (w.expire key p s'.world).2)
  | withdrawn {key : K} {p : Pending} {s s' : Session W C R} {i : ℕ} {h : i + 1 < frames + 1}
      (hprobe : probe p s = (.error ⟨i + 1, h⟩, s')) :
      Ends w probe (.waiting key p) s
        (.error ⟨i, Nat.lt_of_succ_lt_succ h⟩, s'.setWorld (w.withdraw key p s'.world))

/-- A session that has got somewhere goes on from there. -/
lemma follow_of_follows (h : Follows w probe activity s probes activity' s') (n : ℕ) :
    follow w probe (n + probes.length) activity s = follow w probe n activity' s' := by
  induction h generalizing n with
  | refl => rfl
  | @answered probes key p s₁ s₂ busy _ hprobe ih =>
    rw [List.length_cons, ← Nat.add_assoc, Nat.add_right_comm, ih, follow, hprobe]

/-- What is followed from where a session has got to has been followed from its beginning. -/
lemma Follows.trans {probes' : List (IpAddr × Bool)} {activity'' : Activity K R}
    {s'' : Session W C R} (h : Follows w probe activity s probes activity' s')
    (h' : Follows w probe activity' s' probes' activity'' s'') :
    Follows w probe activity s (probes' ++ probes) activity'' s'' := by
  induction h' with
  | refl => exact h
  | answered _ hprobe ih => exact ih.answered hprobe

/-- A session has either got nowhere yet, or from the first answer on to where it is. -/
lemma Follows.head (h : Follows w probe activity s probes activity' s') :
    (activity = activity' ∧ s = s') ∨ ∃ key p busy s₁, activity = .waiting key p ∧
      probe p s = (.ok busy, s₁) ∧ ∃ probes', Follows w probe (w.resume key p busy s₁.world).1
        (s₁.setWorld (w.resume key p busy s₁.world).2) probes' activity' s' := by
  induction h with
  | refl => exact .inl ⟨rfl, rfl⟩
  | @answered probes key p s₁ s₂ busy _ hprobe ih =>
    right
    rcases ih with ⟨rfl, rfl⟩ | ⟨key', p', busy', s', hactivity, hprobe', probes', hrest⟩
    · exact ⟨key, p, busy, s₂, rfl, hprobe, [], .refl⟩
    · exact ⟨key', p', busy', s', hactivity, hprobe', _, hrest.answered hprobe⟩

/-- Whatever comes of following an allocation, the session has got from probe to probe to where it
has ended, or has made as many probes as it may. -/
theorem exists_follows {n : ℕ} {r : Except (Fin frames) R × Session W C R}
    (h : follow w probe n activity s = r) :
    ∃ probes activity' s', Follows w probe activity s probes activity' s' ∧
      (Ends w probe activity' s' r ∨
        probes.length = n ∧ ∃ key p, activity' = .waiting key p) := by
  induction n generalizing activity s with
  | zero =>
    cases activity with
    | replied reply => exact ⟨[], _, s, .refl, .inl (h ▸ .replied reply s)⟩
    | waiting key p => exact ⟨[], _, s, .refl, .inr ⟨rfl, key, p, rfl⟩⟩
  | succ n ih =>
    cases activity with
    | replied reply => exact ⟨[], _, s, .refl, .inl (h ▸ .replied reply s)⟩
    | waiting key p =>
      rw [follow] at h
      split at h
      · next busy s₁ hprobe =>
        obtain ⟨probes, activity', s', hfollows, hend⟩ := ih h
        have hfirst : Follows w probe (.waiting key p) s [(p.ip, busy)] _ _ :=
          .answered .refl hprobe
        refine ⟨_, activity', s', hfirst.trans hfollows, ?_⟩
        rcases hend with hend | ⟨hlength, hwaiting⟩
        · exact .inl hend
        · exact .inr ⟨by simp [hlength], hwaiting⟩
      · next s₁ hprobe => exact ⟨[], _, s, .refl, .inl (h ▸ .expired hprobe)⟩
      · next s₁ hprobe => exact ⟨[], _, s, .refl, .inl (h ▸ .withdrawn hprobe)⟩

/-! ## Views that probes leave alone -/

/-- Whether all probes that an allocation goes on to make leave the world alone, in some view of it.
-/
def Spared {α : Type} (w : World W C K R)
    (probe : Pending → Session W C R → Except (Fin (frames + 1)) Bool × Session W C R)
    (view : W → α) (activity : Activity K R) (s : Session W C R) : Prop :=
  ∀ probes key p s', Follows w probe activity s probes (.waiting key p) s' →
    view (probe p s').2.world = view s'.world

variable {α : Type} {view : W → α} {key : K} {p : Pending}

/-- An allocation that is over makes no probes. -/
lemma spared_replied (reply : R) (s : Session W C R) : Spared w probe view (.replied reply) s := by
  intro probes key p s' hfollows
  rcases hfollows.head with ⟨hwaiting, -⟩ | ⟨key, q, busy, s₁, hwaiting, -⟩ <;> simp at hwaiting

/-- The probe that an allocation waits for leaves the world alone, and so do those that follow. -/
lemma spared_waiting_iff :
    Spared w probe view (.waiting key p) s ↔
      view (probe p s).2.world = view s.world ∧
        ∀ busy s', probe p s = (.ok busy, s') →
          Spared w probe view (w.resume key p busy s'.world).1
            (s'.setWorld (w.resume key p busy s'.world).2) := by
  constructor
  · intro h
    refine ⟨h [] key p s .refl, ?_⟩
    intro busy s' hprobe probes key' p' s'' hfollows
    exact h _ key' p' s'' (.trans (.answered .refl hprobe) hfollows)
  · rintro ⟨hfirst, hrest⟩ probes key' p' s' hfollows
    rcases hfollows.head with
      ⟨hwaiting, rfl⟩ | ⟨key₁, q, busy, s₁, hwaiting, hprobe, probes₁, hlater⟩
    · obtain ⟨rfl, rfl⟩ := Activity.waiting.inj hwaiting
      exact hfirst
    · obtain ⟨rfl, rfl⟩ := Activity.waiting.inj hwaiting
      exact hrest busy s₁ hprobe probes₁ key' p' s' hlater

/-- What an allocation keeps in each step of its own, as far as it shows in a view that its probes
leave alone, it has kept when it ends. -/
theorem follow_spared {Inv : Activity K R → α → Prop}
    (hresume : ∀ key p busy x, Inv (.waiting key p) (view x) →
      Inv (w.resume key p busy x).1 (view (w.resume key p busy x).2))
    (hexpire : ∀ key p x, Inv (.waiting key p) (view x) →
      Inv (.replied (w.expire key p x).1) (view (w.expire key p x).2))
    (hspared : Spared w probe view activity s) (h : Inv activity (view s.world)) {n : ℕ}
    {result : Except (Fin frames) R} (hfollow : follow w probe n activity s = (result, s')) :
    (∃ reply, result = .ok reply ∧ Inv (.replied reply) (view s'.world)) ∨
      ∃ key p x, Inv (.waiting key p) (view x) ∧ (∃ j, result = .error j) ∧
        s'.world = w.withdraw key p x := by
  induction n generalizing activity s with
  | zero =>
    cases activity with
    | replied reply =>
      obtain ⟨rfl, rfl⟩ := Prod.mk.inj hfollow
      exact .inl ⟨reply, rfl, h⟩
    | waiting key p =>
      obtain ⟨rfl, rfl⟩ := Prod.mk.inj hfollow
      exact .inl ⟨_, rfl, hexpire key p s.world h⟩
  | succ n ih =>
    cases activity with
    | replied reply =>
      obtain ⟨rfl, rfl⟩ := Prod.mk.inj hfollow
      exact .inl ⟨reply, rfl, h⟩
    | waiting key p =>
      obtain ⟨hsame, hrest⟩ := spared_waiting_iff.1 hspared
      rw [← hsame] at h
      rcases hprobe : probe p s with ⟨r, s₁⟩
      rw [hprobe] at h
      rw [follow, hprobe] at hfollow
      rcases r with ⟨j, hj⟩ | busy
      · cases j with
        | zero =>
          obtain ⟨rfl, rfl⟩ := Prod.mk.inj hfollow
          exact .inl ⟨_, rfl, hexpire key p s₁.world h⟩
        | succ j =>
          obtain ⟨rfl, rfl⟩ := Prod.mk.inj hfollow
          exact .inr ⟨key, p, s₁.world, h, ⟨_, rfl⟩, rfl⟩
      · exact ih (hrest busy s₁ hprobe) (hresume key p busy s₁.world h) hfollow

/-! ## The probes of a session -/

/-- How an allocation is probed inside a session. -/
def probing (w : World W C K R) : (depth : ℕ) → (outer : List (Option ℕ)) → Pending →
    Session W C R → Except (Fin (outer.length + 1)) Bool × Session W C R
  | 0, _ => fun _ s => (.ok false, s)
  | depth + 1, outer => Session.probe w outer (carryOut w depth)

lemma carryOut_eq_follow (w : World W C K R) (depth : ℕ) (outer : List (Option ℕ)) (c : C)
    (s : Session W C R) :
    carryOut w depth outer c s = follow w (probing w depth outer) Allocation.maxProbes
      (w.submit c s.world).1 (s.setWorld (w.submit c s.world).2) := by
  cases depth <;> rfl

variable {depth : ℕ} {outer : List (Option ℕ)}

lemma probing_steps (w : World W C K R) (depth : ℕ) (outer : List (Option ℕ)) (p : Pending)
    (s : Session W C R) (waiting : List (K × Pending)) :
    w.Steps (s.world, waiting) ((probing w depth outer p s).2.world, waiting) := by
  cases depth with
  | zero => exact .refl
  | succ depth => exact probe_steps w depth outer p s waiting

lemma probing_orderly (htimed : w.Timed) {p : Pending}
    {result : Except (Fin (outer.length + 1)) Bool} (h : probing w depth outer p s = (result, s')) :
    Orderly w s (p.claim.request.deadline :: outer) result s' := by
  cases depth with
  | zero =>
    obtain ⟨rfl, rfl⟩ := Prod.mk.inj h
    exact ⟨rfl, by simp⟩
  | succ depth =>
    have hprobe : Session.probe w outer (carryOut w depth) p s = (result, s') := h
    exact probe_orderly htimed (carryOut_orderly htimed) hprobe

lemma prober_probing (p : Pending) (s : Session W C R) :
    (probing w depth outer p s).2.prober = s.prober := by
  cases depth with
  | zero => rfl
  | succ depth => exact (probe_leads carryOut_leads p s.keeps_true []).prober

lemma Follows.prober_eq (h : Follows w (probing w depth outer) activity s probes activity' s') :
    s'.prober = s.prober := by
  induction h with
  | refl => rfl
  | @answered _ _ p s₁ s₂ _ _ hprobe ih =>
    have hsame : (probing w depth outer p s₁).2.prober = s₁.prober := prober_probing p s₁
    rw [hprobe] at hsame
    exact hsame.trans ih

/-- A prober that has no commands carried out only takes time. -/
lemma view_probing (hview : ∀ time x, view (w.setClock time x) = view x)
    (hs : s.Keeps fun _ => False) (p : Pending) :
    view (probing w depth outer p s).2.world = view s.world := by
  cases depth with
  | zero => rfl
  | succ depth =>
    simp only [probing, Session.probe]
    cases hprober : s.prober with
    | none => rfl
    | some prober =>
      have hnone : (prober s.probed p.ip).meanwhile = [] :=
        List.eq_nil_iff_forall_not_mem.2 (hs prober hprober s.probed p.ip)
      simp only [hnone, carryOutAll]
      split
      · exact hview _ _
      · exact hview _ _

/-- So it leaves alone what does not show the clock. -/
lemma spared_of_keeps (hview : ∀ time x, view (w.setClock time x) = view x)
    (hs : s.Keeps fun _ => False) (activity : Activity K R) :
    Spared w (probing w depth outer) view activity s := by
  intro probes key p s' hfollows
  exact view_probing hview (fun prober hprober => hs prober (hfollows.prober_eq ▸ hprober)) p

end DhcpLeasing.Session
