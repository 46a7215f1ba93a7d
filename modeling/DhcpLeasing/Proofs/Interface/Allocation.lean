import DhcpLeasing.Proofs.Allocation
import DhcpLeasing.Proofs.Interface.Basic

/-!
# Allocations on a sound interface

The steps of an allocation, as seen from the interface: `begin_outcome`, `resume_outcome` and
`unreserved_abandon` say what comes of each, and `Outcome.granted` what a client that gets a lease
has got. A step that goes on with the answer to a probe is told relative to the interface in which
the reservation of the probed address is given up.
-/

namespace DhcpLeasing

/-- The family of the address that an allocation under way has reserved. -/
def Pending.family (p : Pending) : Family :=
  p.claim.request.family

namespace Interface

variable {now : ℕ} {claim : Claim} {i i' : Interface} {s : Scope} {p : Pending} {l : Lease}

/-- Whether an interface is one on which an allocation can be under way. -/
def Hosts (i : Interface) (p : Pending) : Prop :=
  ∃ s, i.scope? p.family = some s ∧ p.claim.Fits s.pool ∧ s.pool.Offers p.ip

/-- What can come of a step of an allocation that finds the interface `i`. -/
inductive Outcome (now : ℕ) (claim : Claim) (i : Interface) : Progress × Interface → Prop
  | refused (e : LeaseError) : Outcome now claim i (.done (.error e), i)
  | step {s s' : Scope} {progress : Progress} (scope : i.scope? claim.request.family = some s)
      (fits : claim.Fits s.pool) (outcome : Allocation.Outcome now claim s (progress, s')) :
      Outcome now claim i (progress, i.setScope s' claim.request.family)

/-! ## What comes of each step -/

lemma validate_hostname_claim (i : Interface) (request : Request) :
    Hostname.validate (i.claim request).hostname = .ok (i.claim request).hostname := by
  have heq : (i.claim request).hostname = (request.hostname.bind Hostname.sanitize).getD "" := rfl
  rw [heq]
  cases hname : request.hostname.bind Hostname.sanitize with
  | none => exact Hostname.validate_empty
  | some name =>
    obtain ⟨text, -, htext⟩ := Option.bind_eq_some_iff.1 hname
    exact (Hostname.validate_of_sanitize htext).1

theorem begin_outcome (h : i.Sound) (now : ℕ) (request : Request) :
    Outcome now (i.claim request) i (i.begin now request) := by
  unfold begin
  cases hs : i.scope? request.family with
  | none => exact .refused _
  | some s =>
    simp only
    split
    · exact .refused _
    · next hclient =>
      rw [← h.family hs] at hclient
      exact .step hs ⟨hclient, validate_hostname_claim i request⟩
        (Allocation.round_outcome (h.scope hs) now _ _)

lemma abandon_of_scope? (hs : i.scope? p.family = some s) :
    i.abandon p = i.setScope (Allocation.giveUp p.ip s) p.family := by
  rw [Pending.family] at hs ⊢
  simp only [abandon, hs]

lemma abandon_of_scope?_none (hs : i.scope? p.family = none) : i.abandon p = i := by
  rw [Pending.family] at hs
  simp only [abandon, hs]

lemma Sound.abandon (h : i.Sound) (p : Pending) : (i.abandon p).Sound := by
  cases hs : i.scope? p.family with
  | none => rwa [abandon_of_scope?_none hs]
  | some s =>
    rw [abandon_of_scope? hs]
    refine h.setScope ?_ (Allocation.giveUp_sound (h.scope hs) p.ip)
    rw [Allocation.pool_giveUp, h.family hs]

/-- Giving up a reservation leaves the leases alone. -/
lemma unreserved_abandon (i : Interface) (p : Pending) :
    (i.abandon p).unreserved = i.unreserved := by
  cases hs : i.scope? p.family with
  | none => rw [abandon_of_scope?_none hs]
  | some s =>
    rw [abandon_of_scope? hs]
    exact unreserved_setScope hs rfl

lemma emptied_abandon (i : Interface) (p : Pending) : (i.abandon p).emptied = i.emptied := by
  cases hs : i.scope? p.family with
  | none => rw [abandon_of_scope?_none hs]
  | some s =>
    rw [abandon_of_scope? hs]
    exact emptied_setScope hs rfl rfl

/-- A step that goes on with an answer acts on the scope that still holds the reservation, and puts
its own in its place. -/
lemma resume_of_scope? (hs : i.scope? p.family = some s) (now : ℕ) (busy : Bool) :
    i.resume now p busy =
      ((Allocation.answer now p busy s).1,
        (i.abandon p).setScope (Allocation.answer now p busy s).2 p.family) := by
  rw [abandon_of_scope? hs, setScope_setScope]
  rw [Pending.family] at hs ⊢
  simp only [resume, hs]

lemma scope?_abandon (hs : i.scope? p.family = some s) :
    (i.abandon p).scope? p.family = some (Allocation.giveUp p.ip s) := by
  rw [abandon_of_scope? hs, scope?_setScope, if_pos rfl]

theorem resume_outcome (h : i.Sound) (hp : i.Hosts p)
    (hunreserved : p.ip ∉ (i.abandon p).reserved p.family) (now : ℕ) (busy : Bool) :
    Outcome now p.claim (i.abandon p) (i.resume now p busy) := by
  obtain ⟨s, hs, hfits, hoffers⟩ := hp
  have hleft := scope?_abandon hs
  have hsound : (Allocation.giveUp p.ip s).Sound := (h.abandon p).scope hleft
  rw [reserved_of_scope? hleft] at hunreserved
  rw [resume_of_scope? hs]
  exact .step hleft hfits (Allocation.answer_outcome hsound hoffers hunreserved now busy)

/-! ## Allocations under way -/

/-- Whether an allocation can be under way depends on the configuration only. -/
lemma Hosts.of_emptied (hp : i.Hosts p) (h : i'.emptied = i.emptied) : i'.Hosts p := by
  obtain ⟨s, hs, hfits, hoffers⟩ := hp
  obtain ⟨s', hs', hpool⟩ := scope?_of_emptied h hs
  rw [← hpool] at hfits hoffers
  exact ⟨s', hs', hfits, hoffers⟩

lemma Hosts.family_eq (hp : i.Hosts p) (h : i.Sound) : p.ip.family = p.family := by
  obtain ⟨s, hs, -, hoffers⟩ := hp
  rw [hoffers.family_eq, h.family hs]

lemma reserved_abandon (hp : i.Hosts p) (f : Family) :
    (i.abandon p).reserved f =
      if p.family = f then (i.reserved f).erase p.ip else i.reserved f := by
  obtain ⟨s, hs, -⟩ := hp
  rw [abandon_of_scope? hs, reserved, reserved, scope?_setScope]
  by_cases hf : p.family = f
  · simp [← hf, hs]
  · simp [hf, Ne.symm hf]

lemma reserved_hold (hs : i.scope? p.family = some s) (f : Family) :
    (i.setScope (s.hold p.ip) p.family).reserved f =
      if p.family = f then p.ip :: i.reserved f else i.reserved f := by
  rw [reserved, reserved, scope?_setScope]
  by_cases hf : p.family = f
  · simp [← hf, hs]
  · simp [hf, Ne.symm hf]

/-- Giving up a reservation undoes it. -/
lemma abandon_hold (hs : i.scope? p.family = some s) :
    (i.setScope (s.hold p.ip) p.family).abandon p = i := by
  have hheld : (i.setScope (s.hold p.ip) p.family).scope? p.family = some (s.hold p.ip) := by
    rw [scope?_setScope, if_pos rfl]
  rw [abandon_of_scope? hheld, Allocation.giveUp_hold, setScope_setScope, setScope_of_scope? hs]

/-! ## What a step leaves -/

/-- What it means that a request has been granted with a lease: `i'` differs from `i` in the
client's own entry at most, and that entry is found. -/
structure Granted (i i' : Interface) (request : Request) (l : Lease) : Prop where
  hwAddr_eq : l.hwAddr = request.client
  family_eq : l.family = request.family
  leaseByIp : i'.leaseByIp l.ip = some l
  leaseByHw : i'.leaseByHw request.family request.client = some l
  own : ∀ {m}, i.leaseByIp l.ip = some m → m.hwAddr = request.client
  others : ∀ {ip}, ip ≠ l.ip → i'.leaseByIp ip = i.leaseByIp ip

namespace Outcome

lemma sound {r : Progress × Interface} (ho : Outcome now claim i r) (h : i.Sound) : r.2.Sound := by
  cases ho with
  | refused e => exact h
  | step scope fits outcome =>
    refine h.setScope ?_ (outcome.sound (h.scope scope) fits)
    rw [outcome.setup_eq.1, h.family scope]

lemma emptied_eq {r : Progress × Interface} (ho : Outcome now claim i r) :
    r.2.emptied = i.emptied := by
  cases ho with
  | refused e => rfl
  | step scope fits outcome => exact emptied_setScope scope outcome.setup_eq.1 outcome.setup_eq.2

/-- An allocation that is done has amended the interface. -/
lemma amended {result : Except LeaseError Lease} (ho : Outcome now claim i (.done result, i'))
    (h : i.Sound) : Amended i i' := by
  cases ho with
  | refused e => exact .refl i
  | step scope fits outcome =>
    cases outcome with
    | kept held static =>
      rw [setScope_of_scope? scope]
      exact .refl i
    | renewed held dynamic => exact .setScope scope trivial
    | leased offered unreserved onTime admitted =>
      have hfits := Allocation.Outcome.leaseFor_fits (h.scope scope).pool fits offered now
      exact .setScope (c := .commit _) scope hfits
    | failed e =>
      rw [setScope_of_scope? scope]
      exact .refl i

/-- An allocation that fails leaves the interface as it is. -/
lemma eq_of_error {e : LeaseError} (ho : Outcome now claim i (.done (.error e), i')) : i' = i := by
  cases ho with
  | refused e => rfl
  | step scope fits outcome =>
    cases outcome with
    | failed e => exact setScope_of_scope? scope

/-- An allocation that goes on has reserved one more address, which was free. -/
lemma probing (ho : Outcome now claim i (.probing p, i')) :
    p.claim = claim ∧ p.ip ∉ i.reserved p.family ∧
      ∃ s, i.scope? p.family = some s ∧ claim.Fits s.pool ∧ s.pool.Offers p.ip ∧
        s.table.lookup p.ip = none ∧ i' = i.setScope (s.hold p.ip) p.family := by
  cases ho with
  | @step s s' progress scope fits outcome =>
    cases outcome with
    | probing claim_eq offered unleased unreserved =>
      have hfamily : p.family = claim.request.family := by rw [Pending.family, claim_eq]
      rw [hfamily, reserved_of_scope? scope]
      exact ⟨claim_eq, unreserved, s, scope, fits, offered, unleased, rfl⟩

/-- Only an allocation that succeeds changes the leases. -/
lemma leases_eq {progress : Progress} (ho : Outcome now claim i (progress, i'))
    (h : ∀ l, progress ≠ .done (.ok l)) : i'.leases = i.leases := by
  cases progress with
  | done result =>
    cases result with
    | ok l => exact absurd rfl (h l)
    | error e => rw [ho.eq_of_error]
  | probing p =>
    obtain ⟨-, -, s, hs, -, -, -, rfl⟩ := ho.probing
    exact leases_of_unreserved (unreserved_setScope hs (Scope.unreserved_hold s p.ip))

/-- An allocation that succeeds leaves the interface as it is, or has made one change, which is to
renew the client's lease or to commit the one given. -/
lemma change_of_ok (ho : Outcome now claim i (.done (.ok l), i')) :
    i' = i ∨ ∃ c : TableChange, (c = .commit l ∨
      ∃ time d, c = .renew time claim.request.client l.ip d) ∧
        i' = i.change claim.request.family c := by
  cases ho with
  | @step s s' progress scope fits outcome =>
    cases outcome with
    | kept held static => exact .inl (setScope_of_scope? scope)
    | @renewed m held dynamic =>
      have hip : (m.renew (.ofMillis now) s.leaseDuration).ip = m.ip := by
        simp [Lease.renew, dynamic]
      rw [hip]
      exact .inr ⟨_, .inr ⟨_, _, rfl⟩, (change_of_scope? scope _).symm⟩
    | leased offered unreserved onTime admitted =>
      exact .inr ⟨_, .inl rfl, (change_of_scope? scope _).symm⟩

/-- A client that gets a lease gets its own entry, and nothing else changes. -/
theorem granted (ho : Outcome now claim i (.done (.ok l), i')) (h : i.Sound) :
    Granted i i' claim.request l := by
  cases ho with
  | @step s s' progress scope fits outcome =>
    have hsound := h.scope scope
    have hsound' := outcome.sound hsound fits
    have hgranted := outcome.granted hsound
    -- the lease is in the table of the claim, so its address is of that family
    have hfamily : l.ip.family = claim.request.family := by
      rw [hsound'.table.family_eq hgranted.lookup, hsound'.family, outcome.setup_eq.1,
        h.family scope]
    refine ⟨hgranted.hwAddr_eq, hfamily, ?_, ?_, ?_, ?_⟩
    · simpa [leaseByIp, hfamily] using hgranted.lookup
    · simpa [leaseByHw] using hgranted.lookupByHw
    · intro m hm
      rw [leaseByIp, hfamily, scope, Option.bind_some] at hm
      exact hgranted.own hm
    · intro ip hne
      rw [leaseByIp, leaseByIp, scope?_setScope]
      split
      · next heq => rw [heq, scope, Option.bind_some, Option.bind_some, hgranted.others hne]
      · rfl

/-- What a client gets for an address without a lease is for one that nobody has reserved. -/
lemma unreserved_of_new (ho : Outcome now claim i (.done (.ok l), i')) (h : i.Sound)
    (hnew : i.leaseByIp l.ip = none) : l.ip ∉ i.reserved l.ip.family := by
  have hfamily : l.ip.family = claim.request.family := (ho.granted h).family_eq
  cases ho with
  | step scope fits outcome =>
    rw [leaseByIp, hfamily, scope, Option.bind_some] at hnew
    rw [hfamily, reserved_of_scope? scope]
    exact outcome.unreserved_of_new (h.scope scope) hnew

end Outcome

end Interface

end DhcpLeasing
