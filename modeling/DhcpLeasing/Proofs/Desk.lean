import DhcpLeasing.Proofs.Interface.Admin
import DhcpLeasing.Proofs.Interface.Allocation
import DhcpLeasing.Proofs.Session

/-!
# Interfaces with allocations under way

A desk is an interface with the allocations that wait for probes on it. Between the steps of one
allocation anything may happen: other allocations begin, go on and are abandoned in any order, and
other commands are carried out, at any time on the clock. So whatever can happen to an interface is
a run of steps of a desk.

`Desk.Sound` is what all of these steps keep: the leases fit, and the reserved addresses are those
of the waiting allocations, which are all different.
-/

namespace DhcpLeasing

deriving instance DecidableEq for Reply

/-- An interface and the allocations that wait for probes on it. -/
structure Desk where
  interface : Interface
  waiting : List Pending

namespace Desk

/-- The desk after a step of an allocation, beside others that wait. -/
def settle (others : List Pending) : Progress × Interface → Desk
  | (.done _, i) => ⟨i, others⟩
  | (.probing p, i) => ⟨i, p :: others⟩

@[simp] lemma interface_settle (others : List Pending) (r : Progress × Interface) :
    (settle others r).interface = r.2 := by
  obtain ⟨progress, i⟩ := r
  cases progress <;> rfl

/-- A step of an allocation on a desk: it begins, or goes on with the answer to a probe. Given are
the other allocations that wait, and what comes of the step. -/
inductive Move : Desk → List Pending → Progress × Interface → Prop
  | begin (now : ℕ) (request : Request) (i : Interface) (waiting : List Pending) :
      Move ⟨i, waiting⟩ waiting (i.begin now request)
  | resume (now : ℕ) (busy : Bool) (i : Interface) (p : Pending) (before after : List Pending) :
      Move ⟨i, before ++ p :: after⟩ (before ++ after) (i.resume now p busy)

/-- A step of a desk on which no command is carried out but an allowed one. Which ones are allowed
may depend on the time and on the interface that carries them out. -/
inductive StepBy (allowed : ℕ → Interface → InterfaceCommand → Prop) : Desk → Desk → Prop
  | move {d : Desk} {others : List Pending} {r : Progress × Interface} (h : Move d others r) :
      StepBy allowed d (settle others r)
  | abandon (i : Interface) (p : Pending) (before after : List Pending) :
      StepBy allowed ⟨i, before ++ p :: after⟩ ⟨i.abandon p, before ++ after⟩
  | command (now : ℕ) {command : InterfaceCommand} (h : ∀ r, command ≠ .allocate r)
      (i : Interface) (waiting : List Pending) (hallowed : allowed now i command) :
      StepBy allowed ⟨i, waiting⟩ ⟨(i.submit now command).2, waiting⟩

/-- Anything that can happen on a desk. -/
abbrev Step : Desk → Desk → Prop :=
  StepBy fun _ _ _ => True

/-- A desk that an interface can get to on which no allocation is under way. -/
def Reachable (i : Interface) : Desk → Prop :=
  Relation.ReflTransGen Step ⟨i, []⟩

variable {allowed : ℕ → Interface → InterfaceCommand → Prop} {d d' : Desk}

/-! ## What an interface is asked -/

lemma settle_eq (others : List Pending) (r : Progress × Interface) :
    settle others r = ⟨r.2, r.1.activity.pendings others⟩ := by
  obtain ⟨progress, i⟩ := r
  cases progress <;> rfl

/-- Whatever an interface is asked, what it does up to the first probe is a step of its desk. -/
lemma StepBy.submit (now : ℕ) {command : InterfaceCommand} (i : Interface) (waiting : List Pending)
    (hallowed : allowed now i command) :
    StepBy allowed ⟨i, waiting⟩
      ⟨(i.submit now command).2, (i.submit now command).1.pendings waiting⟩ := by
  by_cases hcommand : ∀ r, command ≠ .allocate r
  · obtain ⟨reply, hreply⟩ := i.submit_replied now hcommand
    rw [hreply]
    exact .command now hcommand i waiting hallowed
  · push Not at hcommand
    obtain ⟨r, rfl⟩ := hcommand
    have hstep : StepBy allowed ⟨i, waiting⟩ (settle waiting (i.begin now (r.at now))) :=
      .move (.begin now (r.at now) i waiting)
    rwa [settle_eq] at hstep

/-- So is what it does with the answer to a probe. -/
lemma StepBy.resume (now : ℕ) (busy : Bool) (i : Interface) (p : Pending)
    (before after : List Pending) :
    StepBy allowed ⟨i, before ++ p :: after⟩
      ⟨(i.resume now p busy).2, (i.resume now p busy).1.activity.pendings (before ++ after)⟩ := by
  rw [← settle_eq]
  exact .move (.resume now busy i p before after)

/-! ## Steps beside other allocations -/

lemma settle_append (others outer : List Pending) (r : Progress × Interface) :
    settle (others ++ outer) r =
      ⟨(settle others r).interface, (settle others r).waiting ++ outer⟩ := by
  obtain ⟨progress, i⟩ := r
  cases progress <;> rfl

/-- What can happen on a desk can happen beside other allocations that wait. -/
lemma StepBy.append (h : StepBy allowed d d') (outer : List Pending) :
    StepBy allowed ⟨d.interface, d.waiting ++ outer⟩ ⟨d'.interface, d'.waiting ++ outer⟩ := by
  cases h with
  | move hmove =>
    rw [← settle_append]
    cases hmove with
    | begin now request i => exact .move (.begin now request i _)
    | resume now busy i p before after =>
      have hstep := Move.resume now busy i p before (after ++ outer)
      rw [← List.cons_append, ← List.append_assoc, ← List.append_assoc] at hstep
      exact .move hstep
  | abandon i p before after =>
    have hstep : StepBy allowed _ _ := .abandon i p before (after ++ outer)
    rwa [← List.cons_append, ← List.append_assoc, ← List.append_assoc] at hstep
  | command now hcommand i waiting hallowed =>
    exact .command now hcommand i (waiting ++ outer) hallowed

lemma StepBy.beside {i i' : Interface}
    (h : Relation.ReflTransGen (StepBy allowed) ⟨i, []⟩ ⟨i', []⟩) (waiting : List Pending) :
    Relation.ReflTransGen (StepBy allowed) ⟨i, waiting⟩ ⟨i', waiting⟩ :=
  h.lift (fun d => Desk.mk d.interface (d.waiting ++ waiting)) fun _ _ hstep => hstep.append waiting

/-- What can happen while an allocation waits: a run of steps in which others may begin, go on and
be abandoned, none of which is left when the run is over. -/
def Meanwhile (i i' : Interface) : Prop :=
  Relation.ReflTransGen Step ⟨i, []⟩ ⟨i', []⟩

lemma Meanwhile.beside {i i' : Interface} (h : Meanwhile i i') (waiting : List Pending) :
    Relation.ReflTransGen Step ⟨i, waiting⟩ ⟨i', waiting⟩ :=
  StepBy.beside h waiting

/-! ## Sound desks -/

/-- The addresses of a family that allocations wait for. -/
def addresses (f : Family) (waiting : List Pending) : List IpAddr :=
  (waiting.filter (·.family = f)).map (·.ip)

lemma addresses_cons (f : Family) (p : Pending) (waiting : List Pending) :
    addresses f (p :: waiting) =
      if p.family = f then p.ip :: addresses f waiting else addresses f waiting := by
  by_cases hf : p.family = f
  · simp [addresses, hf]
  · simp [addresses, hf]

lemma mem_addresses_iff {f : Family} {waiting : List Pending} {ip : IpAddr} :
    ip ∈ addresses f waiting ↔ ∃ p ∈ waiting, p.family = f ∧ p.ip = ip := by
  simp [addresses, and_assoc]

/-- A desk on which the leases fit and the reserved addresses are those of the waiting allocations,
each reserved by one of them. -/
structure Sound (d : Desk) : Prop where
  interface : d.interface.Sound
  hosts : ∀ {p}, p ∈ d.waiting → d.interface.Hosts p
  reserved : ∀ f, (d.interface.reserved f).Perm (addresses f d.waiting)
  distinct : (d.waiting.map (·.ip)).Nodup

variable {i i' : Interface} {p q : Pending} {waiting others : List Pending}

lemma Sound.ofConfig (name : String) (c : InterfaceConfig) (probeTimeout : ℕ) :
    Sound ⟨.ofConfig name c probeTimeout, []⟩ where
  interface := .ofConfig name c probeTimeout
  hosts hp := by simp at hp
  reserved f := by
    rw [← Interface.emptied_ofConfig, Interface.reserved_emptied]
    exact .refl _
  distinct := by simp

/-- The order of the waiting allocations does not matter. -/
lemma Sound.perm (h : Sound ⟨i, waiting⟩) (hperm : waiting.Perm others) : Sound ⟨i, others⟩ where
  interface := h.interface
  hosts hp := h.hosts (hperm.mem_iff.2 hp)
  reserved f := (h.reserved f).trans ((hperm.filter _).map _)
  distinct := (hperm.map _).nodup_iff.1 h.distinct

/-- The address that an allocation waits for is not that of another one. -/
lemma Sound.ip_notMem {before after : List Pending} (h : Sound ⟨i, before ++ p :: after⟩) :
    p.ip ∉ (before ++ after).map (·.ip) := by
  have hfront : Sound ⟨i, p :: (before ++ after)⟩ := h.perm List.perm_middle
  exact (List.nodup_cons.1 hfront.distinct).1

/-- Changes that bring no lease that does not fit. -/
lemma Sound.amended (h : Sound ⟨i, waiting⟩) (ha : Interface.Amended i i') :
    Sound ⟨i', waiting⟩ where
  interface := ha.sound h.interface
  hosts hp := (h.hosts hp).of_emptied ha.emptied_eq
  reserved f := ha.reserved_eq f ▸ h.reserved f
  distinct := h.distinct

/-- An allocation that is abandoned gives up its reservation. -/
lemma Sound.abandon {before after : List Pending} (h : Sound ⟨i, before ++ p :: after⟩) :
    Sound ⟨i.abandon p, before ++ after⟩ := by
  -- it may wait in any place, but reservations are compared up to their order
  have hfront : Sound ⟨i, p :: (before ++ after)⟩ := h.perm List.perm_middle
  refine ⟨h.interface.abandon p, ?_, ?_, ?_⟩
  · intro q hq
    have hq : i.Hosts q := hfront.hosts (List.mem_cons_of_mem p hq)
    exact hq.of_emptied (i.emptied_abandon p)
  · intro f
    have hreserved := hfront.reserved f
    rw [addresses_cons] at hreserved
    rw [Interface.reserved_abandon (hfront.hosts List.mem_cons_self)]
    split
    · next hf =>
      rw [if_pos hf] at hreserved
      simpa using hreserved.erase p.ip
    · next hf => rwa [if_neg hf] at hreserved
  · exact (List.nodup_cons.1 hfront.distinct).2

/-- An address that is not reserved is not that of a waiting allocation. -/
lemma Sound.ip_ne (h : Sound ⟨i, others⟩) {ip : IpAddr} (hip : ip ∉ i.reserved ip.family)
    (hq : q ∈ others) : q.ip ≠ ip := by
  intro heq
  subst heq
  have hfamily : q.ip.family = q.family := (h.hosts hq).family_eq h.interface
  apply hip
  rw [(h.reserved _).mem_iff, mem_addresses_iff]
  exact ⟨q, hq, hfamily.symm, rfl⟩

/-- An allocation that goes on has reserved one more address, which is not that of another one. -/
lemma Sound.hold {s : Scope} (h : Sound ⟨i, others⟩) (hs : i.scope? p.family = some s)
    (hfits : p.claim.Fits s.pool) (hoffers : s.pool.Offers p.ip)
    (hunreserved : p.ip ∉ i.reserved p.family) :
    Sound ⟨i.setScope (s.hold p.ip) p.family, p :: others⟩ := by
  have hemptied : (i.setScope (s.hold p.ip) p.family).emptied = i.emptied :=
    Interface.emptied_setScope hs rfl rfl
  have hp : i.Hosts p := ⟨s, hs, hfits, hoffers⟩
  refine ⟨?_, ?_, ?_, ?_⟩
  · refine h.interface.setScope ?_ ((h.interface.scope hs).hold p.ip)
    rw [Scope.pool_hold, h.interface.family hs]
  · intro q hq
    apply Interface.Hosts.of_emptied _ hemptied
    rcases List.mem_cons.1 hq with heq | hq
    · rwa [heq]
    · exact h.hosts hq
  · intro f
    show ((i.setScope (s.hold p.ip) p.family).reserved f).Perm _
    rw [Interface.reserved_hold hs, addresses_cons]
    split
    · exact (h.reserved f).cons p.ip
    · exact h.reserved f
  · rw [← hp.family_eq h.interface] at hunreserved
    have hother : ∀ q ∈ others, q.ip ≠ p.ip := by
      intro q hq
      exact h.ip_ne hunreserved hq
    show (p.ip :: others.map (·.ip)).Nodup
    refine List.nodup_cons.2 ⟨?_, h.distinct⟩
    simpa using hother

/-- A step of an allocation keeps a desk sound. -/
lemma Sound.settle {now : ℕ} {claim : Claim} {r : Progress × Interface} (h : Sound ⟨i, others⟩)
    (ho : Interface.Outcome now claim i r) : Sound (settle others r) := by
  obtain ⟨progress, i'⟩ := r
  cases progress with
  | done result => exact h.amended (ho.amended h.interface)
  | probing p =>
    obtain ⟨rfl, hunreserved, s, hs, hfits, hoffers, -, rfl⟩ := ho.probing
    exact h.hold hs hfits hoffers hunreserved

/-! ## Runs -/

/-- An allocation that is abandoned leaves its address to others, since nobody else has reserved it.
-/
lemma Sound.notMem_reserved_abandon {before after : List Pending}
    (h : Sound ⟨i, before ++ p :: after⟩) : p.ip ∉ (i.abandon p).reserved p.family := by
  have hleft : Sound ⟨i.abandon p, before ++ after⟩ := h.abandon
  rw [(hleft.reserved _).mem_iff, mem_addresses_iff]
  intro hother
  obtain ⟨q, hq, -, heq⟩ := hother
  exact h.ip_notMem (List.mem_map.2 ⟨q, hq, heq⟩)

/-- What comes of the answer to a probe, relative to the interface on which the reservation of the
probed address is given up. -/
lemma Sound.resume_outcome {before after : List Pending} (h : Sound ⟨i, before ++ p :: after⟩)
    (now : ℕ) (busy : Bool) :
    Interface.Outcome now p.claim (i.abandon p) (i.resume now p busy) :=
  Interface.resume_outcome h.interface (h.hosts (by simp)) h.notMem_reserved_abandon now busy

/-- What comes of a step of an allocation, relative to the interface on which the reservation that
it may have is given up. -/
lemma Sound.move_outcome {r : Progress × Interface} (h : d.Sound) (hmove : Move d others r) :
    ∃ now claim i, Sound ⟨i, others⟩ ∧ Interface.Outcome now claim i r ∧
      i.unreserved = d.interface.unreserved ∧ i.emptied = d.interface.emptied := by
  cases hmove with
  | begin now request i =>
    exact ⟨now, i.claim request, i, h, Interface.begin_outcome h.interface now request, rfl, rfl⟩
  | resume now busy i p before after =>
    exact ⟨now, p.claim, i.abandon p, h.abandon, h.resume_outcome now busy,
      i.unreserved_abandon p, i.emptied_abandon p⟩

/-- Every step keeps a desk sound, and leaves the configuration alone. -/
lemma Sound.step (h : d.Sound) (hstep : StepBy allowed d d') :
    d'.Sound ∧ d'.interface.emptied = d.interface.emptied := by
  cases hstep with
  | @move _ others r hmove =>
    obtain ⟨now, claim, i, hi, ho, -, hemptied⟩ := h.move_outcome hmove
    refine ⟨hi.settle ho, ?_⟩
    rw [interface_settle, ho.emptied_eq, hemptied]
  | abandon i p before after => exact ⟨h.abandon, i.emptied_abandon p⟩
  | command now hcommand i waiting =>
    have ha := Interface.submit_amended h.interface now hcommand
    exact ⟨h.amended ha, ha.emptied_eq⟩

/-- Every run keeps a desk sound, and leaves the configuration alone. -/
lemma Sound.run (h : d.Sound) (hrun : Relation.ReflTransGen (StepBy allowed) d d') :
    d'.Sound ∧ d'.interface.emptied = d.interface.emptied := by
  -- by induction on the run, one step at its end at a time
  induction hrun with
  | refl => exact ⟨h, rfl⟩
  | tail _ hstep ih =>
    obtain ⟨hsound, hemptied⟩ := ih
    obtain ⟨hsound', hemptied'⟩ := hsound.step hstep
    exact ⟨hsound', hemptied'.trans hemptied⟩

/-- Every desk that can be reached from a configuration, checked or not, is sound, and its
configuration is still the same. -/
theorem Reachable.sound {name : String} {c : InterfaceConfig} {probeTimeout : ℕ}
    (h : Reachable (.ofConfig name c probeTimeout) d) :
    d.Sound ∧ d.interface.emptied = .ofConfig name c probeTimeout := by
  obtain ⟨hsound, hemptied⟩ := (Sound.ofConfig name c probeTimeout).run h
  exact ⟨hsound, hemptied.trans (Interface.emptied_ofConfig name c probeTimeout)⟩

end Desk

end DhcpLeasing
