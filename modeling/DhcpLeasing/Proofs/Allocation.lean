import DhcpLeasing.Allocation
import DhcpLeasing.Proofs.Scope

/-!
# The steps of an allocation

What can come of a step of an allocation, whichever it is: `Allocation.Outcome` lists the five
possibilities and says of each what becomes of the scope. `round_outcome` and `answer_outcome` show
that there are no others, so that whoever wants to know something about allocations looks at these
five and at no code.

A step that goes on with the answer to a probe finds the address of the probe reserved. What comes
of it is told relative to the scope in which that reservation is given up.
-/

namespace DhcpLeasing

deriving instance DecidableEq for Progress

/-- Whether a pool gives the address to clients. -/
def AddressPool.Offers (p : AddressPool) (ip : IpAddr) : Prop :=
  p.stateful ∧ p.inDynamicRange ip

lemma AddressPool.Offers.family_eq {p : AddressPool} {ip : IpAddr} (h : p.Offers ip) :
    ip.family = p.family :=
  (inDynamicRange_iff.1 h.2).1

/-- Whether what a claim will bring into a lease fits a pool. -/
structure Claim.Fits (p : AddressPool) (claim : Claim) : Prop where
  client : claim.request.client.validateFor p.family = .ok ()
  hostname : Hostname.validate claim.hostname = .ok claim.hostname

/-- What it means that a client has got a lease: `t'` differs from `t` in the client's own entry at
most, and that entry is found. -/
structure LeaseTable.Granted (t t' : LeaseTable) (client : HwAddr) (l : Lease) : Prop where
  hwAddr_eq : l.hwAddr = client
  lookup : t'.lookup l.ip = some l
  lookupByHw : t'.lookupByHw client = some l
  own : ∀ {m}, t.lookup l.ip = some m → m.hwAddr = client
  others : ∀ {ip}, ip ≠ l.ip → t'.lookup ip = t.lookup ip

lemma LeaseTable.Granted.of_lookup {t t' : LeaseTable} {client : HwAddr} {l : Lease}
    (h : t'.WellFormed) (hhw : l.hwAddr = client)
    (hown : ∀ {m}, t.lookup l.ip = some m → m.hwAddr = client)
    (hlookup : ∀ ip, t'.lookup ip = if ip = l.ip then some l else t.lookup ip) :
    t.Granted t' client l := by
  have hl : t'.lookup l.ip = some l := by rw [hlookup, if_pos rfl]
  refine ⟨hhw, hl, h.lookupByHw_eq_some_iff.2 ⟨hl, hhw⟩, hown, ?_⟩
  intro ip hne
  rw [hlookup, if_neg hne]

namespace Allocation

variable {now : ℕ} {claim : Claim} {s s' : Scope} {ip : IpAddr}

/-- What can come of a step of an allocation that finds the scope `s`. -/
inductive Outcome (now : ℕ) (claim : Claim) (s : Scope) : Progress × Scope → Prop
  /-- The client has a static lease. -/
  | kept {l : Lease} (held : s.table.lookupByHw claim.request.client = some l)
      (static : l.isStatic) : Outcome now claim s (.done (.ok l), s)
  /-- The client has a dynamic lease. -/
  | renewed {l : Lease} (held : s.table.lookupByHw claim.request.client = some l)
      (dynamic : l.isStatic = false) :
      Outcome now claim s
        (.done (.ok (l.renew (.ofMillis now) s.leaseDuration)),
          s.change (.renew (.ofMillis now) claim.request.client l.ip s.leaseDuration))
  /-- An address that no other allocation has reserved is leased. -/
  | leased {ip : IpAddr} (offered : s.pool.Offers ip) (unreserved : ip ∉ s.table.reserved)
      (onTime : isLate now claim = false) (admitted : s.table.Admits (leaseFor now claim ip s)) :
      Outcome now claim s
        (.done (.ok (leaseFor now claim ip s)), s.change (.commit (leaseFor now claim ip s)))
  | failed (e : LeaseError) : Outcome now claim s (.done (.error e), s)
  /-- An address that is neither leased nor reserved is probed, and reserved for that time. -/
  | probing {p : Pending} (claim_eq : p.claim = claim) (offered : s.pool.Offers p.ip)
      (unleased : s.table.lookup p.ip = none) (unreserved : p.ip ∉ s.table.reserved) :
      Outcome now claim s (.probing p, s.hold p.ip)

/-! ## Keeping a lease -/

/-- A client that holds a lease keeps it. A dynamic lease always fits the pool, so it is renewed and
never dropped. -/
lemma keepLease_cases (h : s.Sound) (now : ℕ) (client : HwAddr) :
    s.table.lookupByHw client = none ∧ keepLease now client s = (none, s) ∨
      ∃ l, s.table.lookupByHw client = some l ∧
        (l.isStatic ∧ keepLease now client s = (some (.ok l), s) ∨
          l.isStatic = false ∧
            keepLease now client s =
              (some (.ok (l.renew (.ofMillis now) s.leaseDuration)),
                s.change (.renew (.ofMillis now) client l.ip s.leaseDuration))) := by
  unfold keepLease
  cases hheld : s.table.lookupByHw client with
  | none => exact .inl ⟨rfl, rfl⟩
  | some l =>
    refine .inr ⟨l, rfl, ?_⟩
    obtain ⟨hl, hhw⟩ := h.table.lookupByHw_eq_some_iff.1 hheld
    cases hstatic : l.isStatic with
    | true => exact .inl ⟨rfl, by simp [hstatic]⟩
    | false =>
      refine .inr ⟨rfl, ?_⟩
      -- the lease is where the index says, so that the renewal is not refused
      have hrenew := LeaseTable.renew_of_lookup hl hhw hstatic (.ofMillis now) s.leaseDuration
      simp only [hstatic, Bool.false_eq_true, if_false, h.contains_of_lookupByHw hheld hstatic,
        if_true, Scope.change, LeaseTable.change, hrenew]

/-! ## Reserving an address -/

lemma reserveNext_eq_some {excluded : List IpAddr} {attempts n : ℕ} (hpool : s.pool.OfConfig)
    (h : reserveNext excluded s attempts = some (ip, n, s')) :
    s.pool.Offers ip ∧ (s.table.lookup ip = none ∧ ip ∉ s.table.reserved) ∧ s' = s.hold ip := by
  cases attempts with
  | zero => simp [reserveNext] at h
  | succ attempts =>
    obtain ⟨⟨ip', t⟩, hcandidate, heq⟩ := Option.map_eq_some_iff.1 h
    simp only [Prod.mk.injEq] at heq
    obtain ⟨rfl, -, rfl⟩ := heq
    obtain ⟨hstateful, hrange, hfree, -, rfl⟩ :=
      LeaseTable.reserveCandidate_eq_some hpool hcandidate
    exact ⟨⟨hstateful, hrange⟩, hfree, rfl⟩

lemma reserveWanted_eq_some {n : ℕ} (hstateful : s.pool.stateful)
    (h : reserveWanted claim s = some (ip, n, s')) :
    s.pool.Offers ip ∧ (s.table.lookup ip = none ∧ ip ∉ s.table.reserved) ∧ s' = s.hold ip := by
  simp only [reserveWanted, Option.bind_eq_bind, Option.bind_eq_some_iff, Option.guard_eq_some',
    Option.pure_def, Option.some.injEq, Prod.mk.injEq] at h
  obtain ⟨ip', -, -, hrange, t, hreserve, rfl, -, rfl⟩ := h
  obtain ⟨hfree, rfl⟩ := LeaseTable.reserve_eq_some_iff.1 hreserve
  exact ⟨⟨hstateful, hrange⟩, hfree, rfl⟩

/-- The first address to be probed is one that the pool offers, and free. -/
lemma reserveFirst_eq_some {n : ℕ} (hpool : s.pool.OfConfig) (hstateful : s.pool.stateful)
    (h : reserveFirst claim s = some (ip, n, s')) :
    s.pool.Offers ip ∧ (s.table.lookup ip = none ∧ ip ∉ s.table.reserved) ∧ s' = s.hold ip := by
  unfold reserveFirst at h
  cases hwanted : reserveWanted claim s with
  | none =>
    rw [hwanted, Option.none_or] at h
    exact reserveNext_eq_some hpool h
  | some r =>
    rw [hwanted, Option.some_or] at h
    exact reserveWanted_eq_some hstateful (hwanted.trans h)

@[simp] lemma pool_giveUp (ip : IpAddr) (s : Scope) : (giveUp ip s).pool = s.pool := rfl

@[simp] lemma table_giveUp (ip : IpAddr) (s : Scope) :
    (giveUp ip s).table = s.table.release ip := rfl

@[simp] lemma giveUp_hold (s : Scope) (ip : IpAddr) : giveUp ip (s.hold ip) = s := by
  simp [giveUp, Scope.hold]

lemma giveUp_sound (h : s.Sound) (ip : IpAddr) : (giveUp ip s).Sound where
  pool := h.pool
  family := h.family
  table := h.table.withReserved _
  fits := h.fits

/-! ## Leasing the reserved address -/

/-- Leasing a reserved address has the same effect as giving up the reservation first. -/
lemma conclude_eq (now : ℕ) (claim : Claim) (again : Conflict → Scope → Progress × Scope)
    (ip : IpAddr) (s : Scope) :
    conclude now claim again ip s =
      if isLate now claim then (.done (.error .timeout), giveUp ip s)
      else
        let l := leaseFor now claim ip (giveUp ip s)
        let left := (giveUp ip s).change (.commit l)
        match ((giveUp ip s).table.commit l).1 with
        | .ok l => (.done (.ok l), left)
        | .error (.conflict cause) => again cause left
        | .error e => (.done (.error e), left) := by
  have hcommit : (giveUp ip s).table.commit (leaseFor now claim ip (giveUp ip s)) =
      ((s.table.commit (leaseFor now claim ip s)).1,
        (s.table.commit (leaseFor now claim ip s)).2.release ip) :=
    LeaseTable.commit_release s.table (leaseFor now claim ip s) ip
  simp only [conclude, Scope.change, LeaseTable.change, hcommit]
  rfl

/-- What the last step of a round comes to, relative to the scope in which the reservation is given
up. The commit of an address that the pool has is refused for no other reason than a conflict. -/
lemma conclude_cases {base : Scope} (hbase : giveUp ip s = base) (h : base.Sound)
    (hfamily : ip.family = base.pool.family) (now : ℕ) (claim : Claim)
    (again : Conflict → Scope → Progress × Scope) :
    isLate now claim ∧ conclude now claim again ip s = (.done (.error .timeout), base) ∨
      isLate now claim = false ∧
        (base.table.Admits (leaseFor now claim ip base) ∧
            conclude now claim again ip s =
              (.done (.ok (leaseFor now claim ip base)),
                base.change (.commit (leaseFor now claim ip base))) ∨
          ∃ cause, (base.table.commit (leaseFor now claim ip base)).1 = .error (.conflict cause) ∧
            conclude now claim again ip s = again cause base) := by
  have htable : (leaseFor now claim ip base).ip.family = base.table.family :=
    hfamily.trans h.family.symm
  rw [conclude_eq, hbase]
  cases hlate : isLate now claim with
  | true => exact .inl ⟨rfl, rfl⟩
  | false =>
    refine .inr ⟨rfl, ?_⟩
    rcases LeaseTable.put_cases h.table (leaseFor now claim ip base) with
      ⟨-, cause, hput⟩ | ⟨hadmits, -⟩
    · -- a commit that is refused changes nothing, so what goes on finds the same scope
      have hcommit : base.table.commit (leaseFor now claim ip base) =
          (.error (.conflict cause), base.table) := by
        simp only [LeaseTable.commit, LeaseTable.checkFamily_eq_ok_iff.2 htable, hput]
      refine .inr ⟨cause, by rw [hcommit], ?_⟩
      simp only [Bool.false_eq_true, if_false, Scope.change, LeaseTable.change, hcommit]
    · refine .inl ⟨hadmits, ?_⟩
      have hcommit := LeaseTable.commit_of_admits h.table htable hadmits
      simp only [Bool.false_eq_true, if_false, hcommit]

lemma conclude_outcome {again : Conflict → Scope → Progress × Scope} {base : Scope}
    (hbase : giveUp ip s = base) (h : base.Sound) (hoffered : base.pool.Offers ip)
    (hunreserved : ip ∉ base.table.reserved)
    (hagain : ∀ cause, Outcome now claim base (again cause base)) :
    Outcome now claim base (conclude now claim again ip s) := by
  rcases conclude_cases hbase h hoffered.family_eq now claim again with
    ⟨-, heq⟩ | ⟨hlate, ⟨hadmits, heq⟩ | ⟨cause, -, heq⟩⟩
  · exact heq ▸ .failed _
  · exact heq ▸ .leased hoffered hunreserved hlate hadmits
  · exact heq ▸ hagain cause

/-! ## Whole steps -/

lemma openRound_outcome {again : Conflict → Scope → Progress × Scope} (h : s.Sound) (retries : ℕ)
    (hagain : ∀ cause, Outcome now claim s (again cause s)) :
    Outcome now claim s (openRound now claim retries again s) := by
  unfold openRound
  rcases keepLease_cases h now claim.request.client with
    ⟨-, heq⟩ | ⟨l, hl, ⟨hstatic, heq⟩ | ⟨hdynamic, heq⟩⟩
  · simp only [heq]
    split
    · exact .failed _
    · next hstateful =>
      split
      · exact .failed _
      · split
        · exact .failed _
        · next ip attempts s' hfirst =>
          obtain ⟨hoffered, ⟨hunleased, hunreserved⟩, rfl⟩ :=
            reserveFirst_eq_some h.pool (by simpa using hstateful) hfirst
          split
          · -- probing is off, so the address is leased at once
            exact conclude_outcome (giveUp_hold s ip) h hoffered hunreserved hagain
          · exact .probing rfl hoffered hunleased hunreserved
  · simp only [heq]
    exact .kept hl hstatic
  · simp only [heq]
    exact .renewed hl hdynamic

/-- What comes of a round, which may lead to further rounds. -/
theorem round_outcome (h : s.Sound) (now : ℕ) (claim : Claim) (retries : ℕ) :
    Outcome now claim s (round now claim retries s) := by
  -- a round that has lost its race has changed nothing, and the next one finds the same scope
  induction retries with
  | zero => exact openRound_outcome h 0 fun cause => .failed _
  | succ retries ih => exact openRound_outcome h (retries + 1) fun _ => ih

/-- A round is over at once for a client that holds a lease. -/
lemma round_of_held {held : Lease} (h : s.Sound)
    (hheld : s.table.lookupByHw claim.request.client = some held) (now retries : ℕ) :
    (round now claim retries s).1 = .done (.ok (held.renew (.ofMillis now) s.leaseDuration)) := by
  have hopen : ∀ again, (openRound now claim retries again s).1 =
      .done (.ok (held.renew (.ofMillis now) s.leaseDuration)) := by
    intro again
    unfold openRound
    rcases keepLease_cases h now claim.request.client with
      ⟨hnone, -⟩ | ⟨l, hl, ⟨hstatic, heq⟩ | ⟨hdynamic, heq⟩⟩
    · rw [hheld] at hnone
      exact absurd hnone (Option.some_ne_none _)
    · obtain rfl := Option.some.inj (hheld.symm.trans hl)
      simp only [heq, Lease.renew, hstatic, if_true]
    · obtain rfl := Option.some.inj (hheld.symm.trans hl)
      simp only [heq]
  cases retries with
  | zero => exact hopen _
  | succ retries => exact hopen _

/-- What comes of the answer to a probe. -/
theorem answer_outcome {p : Pending} (h : (giveUp p.ip s).Sound) (hoffered : s.pool.Offers p.ip)
    (hunreserved : p.ip ∉ (giveUp p.ip s).table.reserved) (now : ℕ) (busy : Bool) :
    Outcome now p.claim (giveUp p.ip s) (answer now p busy s) := by
  unfold answer
  split
  · simp only
    split
    · exact .failed _
    · next ip attempts s' hnext =>
      obtain ⟨hoffered', ⟨hunleased, hunreserved'⟩, rfl⟩ := reserveNext_eq_some h.pool hnext
      exact .probing rfl hoffered' hunleased hunreserved'
  · refine conclude_outcome rfl h hoffered hunreserved ?_
    intro cause
    cases p.retries with
    | zero => exact .failed _
    | succ retries => exact round_outcome h now p.claim retries

end Allocation

/-! ## What a step leaves -/

namespace Allocation.Outcome

variable {now : ℕ} {claim : Claim} {s s' : Scope} {l : Lease}

lemma leaseFor_fits {ip : IpAddr} (h : s.pool.OfConfig) (hclaim : claim.Fits s.pool)
    (hoffered : s.pool.Offers ip) (now : ℕ) : s.pool.Fits (leaseFor now claim ip s) where
  client := hclaim.client
  hostname := hclaim.hostname
  static hstatic := by simp [leaseFor, Lease.dynamic] at hstatic
  dynamic _ := ⟨h.contains_of_inDynamicRange hoffered.1 hoffered.2, rfl⟩

/-- A step keeps a scope sound. -/
lemma sound {r : Progress × Scope} (ho : Outcome now claim s r) (h : s.Sound)
    (hclaim : claim.Fits s.pool) : r.2.Sound := by
  cases ho with
  | kept held static => exact h
  | renewed held dynamic => exact h.change trivial
  | leased offered unreserved onTime admitted =>
    exact h.change (c := .commit _) (leaseFor_fits h.pool hclaim offered now)
  | failed e => exact h
  | probing claim_eq offered unleased unreserved => exact h.hold _

/-- A step leaves the pool and the duration of leases alone. -/
lemma setup_eq {r : Progress × Scope} (ho : Outcome now claim s r) :
    r.2.pool = s.pool ∧ r.2.leaseDuration = s.leaseDuration := by
  cases ho <;> exact ⟨rfl, rfl⟩

/-- A client that gets a lease gets its own entry in the table, and nothing else changes. -/
theorem granted (ho : Outcome now claim s (.done (.ok l), s')) (h : s.Sound) :
    s.table.Granted s'.table claim.request.client l := by
  cases ho with
  | kept held static =>
    obtain ⟨hl, hhw⟩ := h.table.lookupByHw_eq_some_iff.1 held
    refine ⟨hhw, hl, held, ?_, ?_⟩
    · intro m hm
      rwa [← Option.some.inj (hl.symm.trans hm)]
    · intro ip _
      rfl
  | @renewed m held dynamic =>
    obtain ⟨hm, hhw⟩ := h.table.lookupByHw_eq_some_iff.1 held
    have hrenewed : m.renew (.ofMillis now) s.leaseDuration =
        { m with expiresAt := some ((Timestamp.ofMillis now).expiryAfter s.leaseDuration) } := by
      simp [Lease.renew, dynamic]
    refine .of_lookup (h.wellFormed_change _) (by rw [hrenewed, hhw]) ?_ ?_
    · intro m' hm'
      rw [hrenewed] at hm'
      rwa [← Option.some.inj (hm.symm.trans hm')]
    · intro ip
      rw [Scope.table_change, LeaseTable.change, LeaseTable.renew_of_lookup hm hhw dynamic,
        hrenewed]
      simp [LeaseTable.lookup]
  | @leased ip offered unreserved onTime admitted =>
    have hfamily : ip.family = s.table.family := offered.family_eq.trans h.family.symm
    refine .of_lookup (h.wellFormed_change _) rfl ?_ ?_
    · intro m hm
      -- a lease for the same address is in the way unless it is the client's own
      exact (admitted hm (.inl (h.table.ip_eq hm).symm)).2.1
    · intro ip'
      rw [Scope.table_change, LeaseTable.change,
        LeaseTable.commit_of_admits h.table hfamily admitted]
      exact LeaseTable.lookup_enter_strike ..

/-- What a client gets for an address without a lease is for one that nobody has reserved. -/
lemma unreserved_of_new (ho : Outcome now claim s (.done (.ok l), s')) (h : s.Sound)
    (hnew : s.table.lookup l.ip = none) : l.ip ∉ s.table.reserved := by
  cases ho with
  | kept held static =>
    rw [(h.table.lookupByHw_eq_some_iff.1 held).1] at hnew
    exact absurd hnew (Option.some_ne_none _)
  | @renewed m held dynamic =>
    have hip : (m.renew (.ofMillis now) s.leaseDuration).ip = m.ip := by simp [Lease.renew, dynamic]
    rw [hip, (h.table.lookupByHw_eq_some_iff.1 held).1] at hnew
    exact absurd hnew (Option.some_ne_none _)
  | leased offered unreserved onTime admitted => exact unreserved

end Allocation.Outcome

end DhcpLeasing
