import DhcpLeasing.Proofs.Allocation.Rounds
import DhcpLeasing.Proofs.Desk.Calls

/-!
# The course of an allocation call

A call with its probes and the time on the clock. `Desk.Course` says how far a call has got, after
which answers to its probes and at what time, whatever has happened on the interface meanwhile. What
each step does to the accounts of the call is known from `Allocation.Opened` and
`Allocation.Answered`; from that follows, by induction on the course,

* `Course.accounts`: the accounts of a call that waits for a probe;
* `Course.won`: how a call that gets a lease has come by it;
* `Course.deadline_le`: when a call runs out of time.
-/

namespace DhcpLeasing

namespace Interface

open Allocation

variable {i : Interface} {p : Pending} {request : Request}

/-- What the first step of an allocation comes to. -/
lemma begin_opened (h : i.Sound) (now : ℕ) (request : Request) :
    (∃ e, e ≠ .timeout ∧ i.begin now request = (.done (.error e), i)) ∨
      ∃ s progress s', i.scope? request.family = some s ∧
        Opened now (i.claim request) maxRetries s (progress, s') ∧
        i.begin now request = (progress, i.setScope s' request.family) := by
  unfold begin
  cases hs : i.scope? request.family with
  | none => exact .inl ⟨_, by simp, rfl⟩
  | some s =>
    simp only
    split
    · exact .inl ⟨_, by simp, rfl⟩
    · exact .inr ⟨s, _, _, rfl, round_opened (h.scope hs) now _ _, rfl⟩

/-- What the answer to a probe comes to, relative to the interface on which the reservation of the
probed address is given up. -/
lemma resume_answered (h : i.Sound) (hp : i.Hosts p) (now : ℕ) (busy : Bool) :
    ∃ s progress s', (i.abandon p).scope? p.family = some s ∧
      Answered now p s busy (progress, s') ∧
      i.resume now p busy = (progress, (i.abandon p).setScope s' p.family) := by
  obtain ⟨s, hs, -, hoffers⟩ := hp
  have hleft := scope?_abandon hs
  have hanswer := answer_answered ((h.abandon p).scope hleft) hoffers now busy
  exact ⟨_, _, _, hleft, hanswer, resume_of_scope? hs now busy⟩

end Interface

namespace Desk

open Allocation

/-- The course of an allocation call up to some step of its own, taken at the time `now`: `left` is
the interface that this step finds, and `r` what comes of it. The probes that have been answered are
listed with their answers, the last one first. A probe is cut short only by a deadline that has
passed. -/
inductive Course (request : Request) (start : Interface) :
    (probes : List (IpAddr × Bool)) → (now : ℕ) → (left : Interface) →
      (r : Progress × Interface) → Prop
  | begin (now : ℕ) : Course request start [] now start (start.begin now request)
  | resume {probes : List (IpAddr × Bool)} {now : ℕ} {left i left' : Interface} {p : Pending}
      (h : Course request start probes now left (.probing p, i)) (meanwhile : Meanwhile i left')
      (now' : ℕ) (busy : Bool) :
      Course request start ((p.ip, busy) :: probes) now' left' (left'.resume now' p busy)
  | expire {probes : List (IpAddr × Bool)} {now now' deadline : ℕ} {left i left' : Interface}
      {p : Pending} (h : Course request start probes now left (.probing p, i))
      (meanwhile : Meanwhile i left') (hdeadline : request.deadline = some deadline)
      (passed : deadline ≤ now') :
      Course request start probes now' left' (.done (.error .timeout), left'.abandon p)

/-- The addresses that the round under way has found in use, the last one first. A round ends when
an address is found free, since that one is then committed. -/
def inRound (probes : List (IpAddr × Bool)) : List IpAddr :=
  (probes.takeWhile (·.2)).map (·.1)

variable {request : Request} {start left left' i : Interface} {probes : List (IpAddr × Bool)}
  {now : ℕ} {waiting : List Pending} {r : Progress × Interface} {p p' : Pending} {l : Lease}

@[simp] lemma inRound_cons_true (ip : IpAddr) (probes : List (IpAddr × Bool)) :
    inRound ((ip, true) :: probes) = ip :: inRound probes := rfl

@[simp] lemma inRound_cons_false (ip : IpAddr) (probes : List (IpAddr × Bool)) :
    inRound ((ip, false) :: probes) = [] := rfl

/-- A course is that of a call. -/
lemma Course.call (h : Course request start probes now left r) :
    ∃ own, Call request start own left r := by
  induction h with
  | begin now => exact ⟨[], .begin now⟩
  | resume _ hmeanwhile now' busy ih =>
    obtain ⟨own, hcall⟩ := ih
    exact ⟨_, hcall.resume hmeanwhile now' busy⟩
  | expire _ hmeanwhile _ _ ih =>
    obtain ⟨own, hcall⟩ := ih
    exact ⟨_, hcall.abandon hmeanwhile⟩

/-- The desk on which a call has taken a step is one that can be reached. -/
lemma Course.reachable {origin : Interface} (hcourse : Course request start probes now left r)
    (hd : Reachable origin ⟨start, waiting⟩) : Reachable origin (settle waiting r) := by
  induction hcourse with
  | begin now => exact hd.tail (.move (.begin now request start waiting))
  | @resume _ _ _ i left' p _ hmeanwhile now' busy ih =>
    have hwait : Reachable origin ⟨left', p :: waiting⟩ := ih.trans (hmeanwhile.beside _)
    exact hwait.tail (.move (.resume now' busy left' p [] waiting))
  | @expire _ _ _ _ _ i left' p _ hmeanwhile _ _ ih =>
    have hwait : Reachable origin ⟨left', p :: waiting⟩ := ih.trans (hmeanwhile.beside _)
    exact hwait.tail (.abandon left' p [] waiting)

/-- The desk on which a call has waited for a probe. -/
lemma Course.wait (hcourse : Course request start probes now left (.probing p, i))
    (h : Sound ⟨start, waiting⟩) (hmeanwhile : Meanwhile i left') :
    Sound ⟨left', [] ++ p :: waiting⟩ ∧ p.claim.request = request := by
  obtain ⟨own, hcall⟩ := hcourse.call
  obtain ⟨hwait, hrequest, -⟩ := (hcall.explained h).wait hmeanwhile
  exact ⟨hwait, hrequest⟩

/-! ## What a call keeps account of -/

/-- Those of some addresses that are not the wanted one. -/
def unwanted (request : Request) (ips : List IpAddr) : List IpAddr :=
  ips.filter (request.wanted ≠ some ·)

/-- What holds of a call that waits for a probe. Every round starts with the candidates anew, and
every probe, answered or not, is one of those that a call may make. -/
structure Accounts (request : Request) (start : Interface) (probes : List (IpAddr × Bool))
    (p : Pending) : Prop where
  claim_eq : p.claim = start.claim request
  on : start.probeTimeout ≠ 0
  excluded_eq : p.excluded = inRound probes
  distinct : (p.ip :: p.excluded).Nodup
  attempts_le : p.excluded.length + p.attempts ≤ maxAttempts
  candidates_le : (unwanted request (p.ip :: p.excluded)).length + p.attempts ≤ maxAttempts
  retries_eq : probes.countP (!·.2) + p.retries = maxRetries
  probes_le : probes.length + 1 + p.attempts + (maxAttempts + 1) * p.retries ≤ maxProbes

lemma length_unwanted_singleton {ip : IpAddr} {attempts : ℕ} (hle : attempts ≤ maxAttempts)
    (hcandidate : request.wanted ≠ some ip → attempts + 1 ≤ maxAttempts) :
    (unwanted request [ip]).length + attempts ≤ maxAttempts := by
  by_cases hwanted : request.wanted = some ip
  · simpa [unwanted, hwanted] using hle
  · have hlt := hcandidate hwanted
    simp only [unwanted, List.filter_singleton, ne_eq, hwanted, not_false_eq_true, decide_true,
      cond_true, List.length_singleton]
    omega

lemma length_unwanted_cons_le (request : Request) (ip : IpAddr) (ips : List IpAddr) :
    (unwanted request (ip :: ips)).length ≤ (unwanted request ips).length + 1 := by
  unfold unwanted
  rw [List.filter_cons]
  split <;> simp

/-- A call that opens its first round. -/
lemma Accounts.opened {s s' : Scope}
    (h : Opened now (start.claim request) maxRetries s (.probing p, s')) :
    Accounts request start [] p := by
  cases h with
  | probing on _ attempts_le candidate =>
    refine ⟨rfl, on, rfl, by simp, by simpa using attempts_le,
      length_unwanted_singleton attempts_le candidate, by simp, ?_⟩
    simp only [List.length_nil, maxProbes, maxRetries]
    omega

/-- A call that waits for another probe, in the same round or in the next one. -/
lemma Accounts.answered {s s' : Scope} {busy : Bool} (hp : Accounts request start probes p)
    (h : Answered now p s busy (.probing p', s')) :
    Accounts request start ((p.ip, busy) :: probes) p' := by
  obtain ⟨hclaim, hon, hexcluded, hdistinct, hattempts, hcandidates, hretries, hprobes⟩ := hp
  cases h with
  | @passed ip attempts attempts_eq fresh =>
    refine ⟨hclaim, hon, by simp [hexcluded], List.nodup_cons.2 ⟨fresh, hdistinct⟩, ?_, ?_, ?_, ?_⟩
    · simp only [List.length_cons]
      omega
    · have hnext := length_unwanted_cons_le request ip (p.ip :: p.excluded)
      show (unwanted request (ip :: p.ip :: p.excluded)).length + attempts ≤ maxAttempts
      omega
    · simpa using hretries
    · simp only [List.length_cons]
      omega
  | again retries_eq opened =>
    cases opened with
    | probing _ _ attempts_le candidate =>
      rw [hclaim] at candidate
      refine ⟨hclaim, hon, rfl, by simp, by simpa using attempts_le,
        length_unwanted_singleton attempts_le candidate, ?_, ?_⟩
      · simp only [Bool.not_false, List.countP_cons_of_pos]
        omega
      · -- the probes of the next round are those that the retry had in store
        rw [retries_eq, Nat.mul_add_one] at hprobes
        simp only [List.length_cons]
        omega

/-- What can come of a step of a call that finds the interface `left`. -/
inductive Taken (request : Request) (start : Interface) (probes : List (IpAddr × Bool)) (now : ℕ)
    (left : Interface) : Progress × Interface → Prop
  | refused {e : LeaseError} (h : e ≠ .timeout) :
      Taken request start probes now left (.done (.error e), left)
  | opened {s s' : Scope} {progress : Progress} (probes_eq : probes = [])
      (scope : left.scope? request.family = some s)
      (h : Opened now (start.claim request) maxRetries s (progress, s')) :
      Taken request start probes now left (progress, left.setScope s' request.family)
  | answered {p : Pending} {busy : Bool} {earlier : List (IpAddr × Bool)} {s s' : Scope}
      {progress : Progress} (probes_eq : probes = (p.ip, busy) :: earlier)
      (accounts : Accounts request start earlier p)
      (scope : (left.abandon p).scope? request.family = some s)
      (h : Answered now p s busy (progress, s')) :
      Taken request start probes now left
        (progress, (left.abandon p).setScope s' request.family)
  | expired {p : Pending} {deadline : ℕ} (hdeadline : request.deadline = some deadline)
      (passed : deadline ≤ now) :
      Taken request start probes now left (.done (.error .timeout), left.abandon p)

lemma Taken.accounts (h : Taken request start probes now left (.probing p, i)) :
    Accounts request start probes p := by
  cases h with
  | opened probes_eq _ h => exact probes_eq ▸ .opened h
  | answered probes_eq accounts _ h => exact probes_eq ▸ accounts.answered h

/-- What comes of a step of a call. -/
theorem Course.taken (hcourse : Course request start probes now left r)
    (h : Sound ⟨start, waiting⟩) : Taken request start probes now left r := by
  -- by induction on the course: what carries it are the accounts of the call while it waits
  induction hcourse with
  | begin now =>
    rcases Interface.begin_opened h.interface now request with
      ⟨e, hne, heq⟩ | ⟨s, progress, s', hs, hopened, heq⟩
    · exact heq ▸ .refused hne
    · exact heq ▸ .opened rfl hs hopened
  | resume hbefore hmeanwhile now' busy ih =>
    obtain ⟨hwait, rfl⟩ := hbefore.wait h hmeanwhile
    obtain ⟨s, progress, s', hs, hanswered, heq⟩ :=
      Interface.resume_answered hwait.interface (hwait.hosts List.mem_cons_self) now' busy
    exact heq ▸ .answered rfl ih.accounts hs hanswered
  | expire _ _ hdeadline passed => exact .expired hdeadline passed

/-- The accounts of a call that waits for a probe. -/
lemma Course.accounts (hcourse : Course request start probes now left (.probing p, i))
    (h : Sound ⟨start, waiting⟩) : Accounts request start probes p :=
  (hcourse.taken h).accounts

/-- A round is not opened with a probe for a client that holds a lease. -/
lemma Course.newcomer (hcourse : Course request start probes now left (.probing p, i))
    (h : Sound ⟨start, waiting⟩) (hround : inRound probes = []) :
    left.leaseByHw request.family request.client = none := by
  cases hcourse.taken h with
  | opened _ scope hopened =>
    cases hopened with
    | probing _ newcomer => rwa [Interface.leaseByHw_of_scope? scope]
  | @answered q _ _ _ _ _ probes_eq accounts scope hanswered =>
    subst probes_eq
    cases hanswered with
    | passed => simp at hround
    | again _ hopened =>
      cases hopened with
      | probing _ newcomer =>
        rw [accounts.claim_eq] at newcomer
        rwa [← Interface.leaseByHw_of_unreserved (left.unreserved_abandon q),
          Interface.leaseByHw_of_scope? scope]

/-! ## How a call ends -/

/-- The lease is one that the client has held, renewed if it is dynamic. -/
def Kept (request : Request) (now : ℕ) (left : Interface) (l : Lease) : Prop :=
  ∃ held d, left.leaseByHw request.family request.client = some held ∧
    l = held.renew (.ofMillis now) d

/-- The lease is a new one, committed at the time `now`. -/
def Committed (request : Request) (now : ℕ) (left i : Interface) (l : Lease) : Prop :=
  (∃ hostname d, l = .dynamic (.ofMillis now) l.ip request.client hostname d) ∧
    i.unreserved = left.unreserved.change request.family (.commit l)

/-- How a call that is over has come by its lease: it has been kept, or committed in time, for an
address that has just been found free unless probing is off. -/
inductive Won (request : Request) (start : Interface) (probes : List (IpAddr × Bool)) (now : ℕ)
    (left i : Interface) (l : Lease) : Prop
  | kept (h : Kept request now left l)
  | committed (h : Committed request now left i l)
      (onTime : ∀ deadline, request.deadline = some deadline → now < deadline)
      (probed : start.probeTimeout ≠ 0 → ∃ earlier, probes = (l.ip, false) :: earlier)

lemma lt_of_isLate {claim : Claim} (h : isLate now claim = false) {deadline : ℕ}
    (hdeadline : claim.request.deadline = some deadline) : now < deadline := by
  simpa [isLate, hdeadline] using h

lemma exists_of_isLate {claim : Claim} (h : isLate now claim) :
    ∃ deadline, claim.request.deadline = some deadline ∧ deadline ≤ now := by
  simpa [isLate, Option.any_eq_true] using h

lemma Kept.of_abandon (h : Kept request now (left.abandon p) l) : Kept request now left l := by
  obtain ⟨held, d, hheld, rfl⟩ := h
  rw [Interface.leaseByHw_of_unreserved (left.unreserved_abandon p)] at hheld
  exact ⟨held, d, hheld, rfl⟩

lemma Committed.of_abandon (h : Committed request now (left.abandon p) i l) :
    Committed request now left i l := by
  obtain ⟨hlease, hchange⟩ := h
  rw [left.unreserved_abandon p] at hchange
  exact ⟨hlease, hchange⟩

/-- What comes of a commit on an interface. -/
lemma committed_leaseFor {claim : Claim} {s : Scope}
    (hs : left.scope? claim.request.family = some s) (now : ℕ) (ip : IpAddr) :
    Committed claim.request now left
      (left.setScope (s.change (.commit (leaseFor now claim ip s))) claim.request.family)
      (leaseFor now claim ip s) := by
  refine ⟨⟨claim.hostname, s.leaseDuration, rfl⟩, ?_⟩
  rw [← Interface.change_of_scope? hs, Interface.unreserved_change]

/-- A round that ends with a lease in its first step has kept it, or committed it with probing off.
-/
lemma Opened.won {claim : Claim} {retries : ℕ} {s s' : Scope}
    (h : Opened now claim retries s (.done (.ok l), s'))
    (hs : left.scope? claim.request.family = some s) :
    Kept claim.request now left l ∨
      claim.probeTimeout = 0 ∧ isLate now claim = false ∧
        Committed claim.request now left (left.setScope s' claim.request.family) l := by
  cases h with
  | @kept held s' held_eq =>
    exact .inl ⟨held, s.leaseDuration, by rwa [Interface.leaseByHw_of_scope? hs], rfl⟩
  | leased off onTime => exact .inr ⟨off, onTime, committed_leaseFor hs now _⟩

/-- How a call that gets a lease has come by it. -/
theorem Course.won (hcourse : Course request start probes now left (.done (.ok l), i))
    (h : Sound ⟨start, waiting⟩) : Won request start probes now left i l := by
  cases hcourse.taken h with
  | opened _ scope hopened =>
    rcases Opened.won hopened scope with hkept | ⟨hoff, honTime, hcommitted⟩
    · exact .kept hkept
    · exact .committed hcommitted (fun _ hdeadline => lt_of_isLate honTime hdeadline)
        fun hon => absurd hoff hon
  | @answered q _ earlier s _ _ probes_eq accounts scope hanswered =>
    have hclaim := accounts.claim_eq
    cases hanswered with
    | leased onTime =>
      rw [hclaim] at onTime ⊢
      exact .committed (committed_leaseFor scope now q.ip).of_abandon
        (fun _ hdeadline => lt_of_isLate onTime hdeadline) fun _ => ⟨earlier, probes_eq⟩
    | again _ hopened =>
      -- a call that has probed does not commit without a probe
      rw [hclaim] at hopened
      rcases Opened.won hopened scope with hkept | ⟨hoff, -⟩
      · exact .kept hkept.of_abandon
      · exact absurd hoff accounts.on

/-- A call runs out of time only when its deadline has passed. -/
theorem Course.deadline_le
    (hcourse : Course request start probes now left (.done (.error .timeout), i))
    (h : Sound ⟨start, waiting⟩) :
    ∃ deadline, request.deadline = some deadline ∧ deadline ≤ now := by
  cases hcourse.taken h with
  | refused hne => exact absurd rfl hne
  | opened _ _ hopened =>
    cases hopened with
    | failed late => exact exists_of_isLate (late rfl)
  | answered _ accounts _ hanswered =>
    have hclaim := accounts.claim_eq
    cases hanswered with
    | late late =>
      rw [hclaim] at late
      exact exists_of_isLate late
    | again _ hopened =>
      rw [hclaim] at hopened
      cases hopened with
      | failed late => exact exists_of_isLate (late rfl)
  | expired hdeadline passed => exact ⟨_, hdeadline, passed⟩

end Desk

end DhcpLeasing
