import DhcpLeasing.Proofs.Allocation

/-!
# The rounds of an allocation

`Allocation.Outcome` says what a step of an allocation does to the scope. Here is what it does to
the allocation: which addresses have been passed over, how many more may be tried, and when it
starts over or gives up.

* `Allocation.Opened` lists what a round may begin with, `round_opened`;
* `Allocation.Answered` lists what may come of the answer to a probe, `answer_answered`, which may
  be that another round is opened.

With probing off a round is over in its first step; with probing on no address is leased but one
that has just been probed.
-/

namespace DhcpLeasing.Allocation

variable {now retries : ℕ} {claim : Claim} {s : Scope}

lemma reserveNext_attempts {excluded : List IpAddr} {attempts n : ℕ} {ip : IpAddr} {s' : Scope}
    (hpool : s.pool.OfConfig) (h : reserveNext excluded s attempts = some (ip, n, s')) :
    attempts = n + 1 ∧ ip ∉ excluded := by
  cases attempts with
  | zero => simp [reserveNext] at h
  | succ attempts =>
    obtain ⟨⟨ip', t⟩, hcandidate, heq⟩ := Option.map_eq_some_iff.1 h
    simp only [Prod.mk.injEq] at heq
    obtain ⟨rfl, rfl, -⟩ := heq
    obtain ⟨-, -, -, hexcluded, -⟩ := LeaseTable.reserveCandidate_eq_some hpool hcandidate
    exact ⟨rfl, hexcluded⟩

/-- The wanted address is tried beside the candidates, another first address is one of them. -/
lemma reserveFirst_attempts {ip : IpAddr} {n : ℕ} {s' : Scope} (hpool : s.pool.OfConfig)
    (h : reserveFirst claim s = some (ip, n, s')) :
    n ≤ maxAttempts ∧ (claim.request.wanted ≠ some ip → n + 1 ≤ maxAttempts) := by
  unfold reserveFirst at h
  cases hwanted : reserveWanted claim s with
  | none =>
    rw [hwanted, Option.none_or] at h
    obtain ⟨hattempts, -⟩ := reserveNext_attempts hpool h
    exact ⟨by omega, fun _ => by omega⟩
  | some r =>
    rw [hwanted, Option.some_or] at h
    obtain rfl := Option.some.inj h
    simp only [reserveWanted, Option.bind_eq_bind, Option.bind_eq_some_iff, Option.pure_def,
      Option.some.injEq, Prod.mk.injEq] at hwanted
    obtain ⟨ip', hip', -, -, -, -, rfl, rfl, -⟩ := hwanted
    exact ⟨le_rfl, fun hne => absurd hip' hne⟩

/-! ## Opening a round -/

/-- What a round that finds the scope `s` begins with. -/
inductive Opened (now : ℕ) (claim : Claim) (retries : ℕ) (s : Scope) : Progress × Scope → Prop
  | kept {held : Lease} {s' : Scope}
      (held_eq : s.table.lookupByHw claim.request.client = some held) :
      Opened now claim retries s (.done (.ok (held.renew (.ofMillis now) s.leaseDuration)), s')
  /-- With probing off the address is leased without a look at it. -/
  | leased {ip : IpAddr} (off : claim.probeTimeout = 0) (onTime : isLate now claim = false) :
      Opened now claim retries s
        (.done (.ok (leaseFor now claim ip s)), s.change (.commit (leaseFor now claim ip s)))
  | failed {e : LeaseError} (late : e = .timeout → isLate now claim) :
      Opened now claim retries s (.done (.error e), s)
  | probing {ip : IpAddr} {attempts : ℕ} (on : claim.probeTimeout ≠ 0)
      (newcomer : s.table.lookupByHw claim.request.client = none)
      (attempts_le : attempts ≤ maxAttempts)
      (candidate : claim.request.wanted ≠ some ip → attempts + 1 ≤ maxAttempts) :
      Opened now claim retries s (.probing ⟨claim, ip, [], attempts, retries⟩, s.hold ip)

/-- With probing off it makes no difference how often an allocation may start over. -/
lemma Opened.of_off {r : Progress × Scope} (h : Opened now claim retries s r)
    (off : claim.probeTimeout = 0) (retries' : ℕ) : Opened now claim retries' s r := by
  cases h with
  | kept held_eq => exact .kept held_eq
  | leased off onTime => exact .leased off onTime
  | failed late => exact .failed late
  | probing on => exact absurd off on

lemma openRound_opened {again : Conflict → Scope → Progress × Scope} (h : s.Sound) (retries : ℕ)
    (hagain : claim.probeTimeout = 0 → ∀ cause, Opened now claim retries s (again cause s)) :
    Opened now claim retries s (openRound now claim retries again s) := by
  unfold openRound
  rcases keepLease_cases h now claim.request.client with
    ⟨hnewcomer, heq⟩ | ⟨held, hheld, ⟨hstatic, heq⟩ | ⟨-, heq⟩⟩
  · simp only [heq]
    split
    · exact .failed (by simp)
    · next hstateful =>
      split
      · exact .failed (by simp)
      · split
        · exact .failed (by simp)
        · next ip attempts s' hfirst =>
          obtain ⟨hattempts, hcandidate⟩ := reserveFirst_attempts h.pool hfirst
          obtain ⟨hoffered, -, rfl⟩ := reserveFirst_eq_some h.pool (by simpa using hstateful) hfirst
          split
          · next hoff =>
            rcases conclude_cases (giveUp_hold s ip) h hoffered.family_eq now claim again with
              ⟨hlate, heq⟩ | ⟨honTime, ⟨-, heq⟩ | ⟨cause, -, heq⟩⟩
            · exact heq ▸ .failed fun _ => hlate
            · exact heq ▸ .leased hoff honTime
            · exact heq ▸ hagain hoff cause
          · next hon => exact .probing hon hnewcomer hattempts hcandidate
  · -- a static lease is what it is when it is renewed, too
    have hkept : Opened now claim retries s
        (.done (.ok (held.renew (.ofMillis now) s.leaseDuration)), s) := .kept hheld
    rw [Lease.renew, if_pos hstatic] at hkept
    simpa only [heq] using hkept
  · simp only [heq]
    exact .kept hheld

/-- What a round begins with. -/
theorem round_opened (h : s.Sound) (now : ℕ) (claim : Claim) (retries : ℕ) :
    Opened now claim retries s (round now claim retries s) := by
  -- with probing off a round that has lost its race opens the next one in the same step
  induction retries with
  | zero => exact openRound_opened h 0 fun _ cause => .failed (by simp)
  | succ retries ih => exact openRound_opened h (retries + 1) fun hoff _ => ih.of_off hoff _

/-! ## Answers to probes -/

/-- What comes of the answer to a probe, where `s` is the scope in which the reservation of the
probed address is given up. -/
inductive Answered (now : ℕ) (p : Pending) (s : Scope) : (busy : Bool) → Progress × Scope → Prop
  | passed {ip : IpAddr} {attempts : ℕ} (attempts_eq : p.attempts = attempts + 1)
      (fresh : ip ∉ p.ip :: p.excluded) :
      Answered now p s true
        (.probing { p with ip, excluded := p.ip :: p.excluded, attempts }, s.hold ip)
  | exhausted : Answered now p s true (.done (.error .poolExhausted), s)
  | late (late : isLate now p.claim) : Answered now p s false (.done (.error .timeout), s)
  | leased (onTime : isLate now p.claim = false) :
      Answered now p s false
        (.done (.ok (leaseFor now p.claim p.ip s)),
          s.change (.commit (leaseFor now p.claim p.ip s)))
  /-- The race is lost, and there is no other round. -/
  | lost {cause : Conflict} (retries_eq : p.retries = 0) :
      Answered now p s false (.done (.error (.conflict cause)), s)
  | again {retries : ℕ} {r : Progress × Scope} (retries_eq : p.retries = retries + 1)
      (opened : Opened now p.claim retries s r) : Answered now p s false r

/-- What comes of the answer to a probe. -/
theorem answer_answered {p : Pending} (h : (giveUp p.ip s).Sound) (hoffered : s.pool.Offers p.ip)
    (now : ℕ) (busy : Bool) : Answered now p (giveUp p.ip s) busy (answer now p busy s) := by
  unfold answer
  cases busy with
  | true =>
    simp only [if_true]
    split
    · exact .exhausted
    · next ip attempts s' hnext =>
      obtain ⟨hattempts, hfresh⟩ := reserveNext_attempts h.pool hnext
      obtain ⟨-, -, rfl⟩ := reserveNext_eq_some h.pool hnext
      exact .passed hattempts hfresh
  | false =>
    simp only [Bool.false_eq_true, if_false]
    rcases conclude_cases rfl h hoffered.family_eq now p.claim (retry now p.claim p.retries) with
      ⟨hlate, heq⟩ | ⟨honTime, ⟨-, heq⟩ | ⟨cause, -, heq⟩⟩
    · exact heq ▸ .late hlate
    · exact heq ▸ .leased honTime
    · rw [heq]
      cases hretries : p.retries with
      | zero => exact .lost hretries
      | succ retries => exact .again hretries (round_opened h now p.claim retries)

end DhcpLeasing.Allocation
