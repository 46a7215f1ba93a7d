import DhcpLeasing.Proofs.Desk.Undisturbed
import DhcpLeasing.Proofs.Desk.Tenure

/-!
# Lost races

An allocation whose first commit is refused starts over. From then on it does what an allocation
that begins there would do, although it may not start over once more: as long as nothing else
happens, no commit is refused, so that the retry that is left to the other one is of no use to it.

* `Allocation.round_alike`: an undisturbed round begins in the same way however many retries are
  left;
* `Fleet.follow_alike`: it also goes on in the same way, and ends without a conflict;
* `Fleet.LosesRace.rounds`: a session that loses the race goes on with such a round, like one in
  which the allocation begins there.
-/

namespace DhcpLeasing

open Text

/-- A lease that another client has the hostname by. -/
lemma Scope.rival_eq_some {scope : Scope} {hostname : String} {client : HwAddr} {rival : Lease}
    (h : scope.rival hostname client = some rival) :
    rival ∈ scope.table.leases ∧ rival.hwAddr ≠ client ∧ hostname ≠ "" ∧
      lowercase rival.hostname = lowercase hostname := by
  unfold Scope.rival at h
  split at h
  · simp at h
  · next hname =>
    obtain ⟨hfind, hother⟩ := Option.filter_eq_some_iff.1 h
    have hshares := List.find?_some hfind
    exact ⟨List.mem_of_find?_eq_some hfind, by simpa using hother, hname, by simpa using hshares⟩

/-- The hostname of a claim, if it has one, is what becomes of that of the request. -/
lemma Interface.hostname_claim {i : Interface} {request : Request}
    (h : (i.claim request).hostname ≠ "") :
    request.hostname.bind Hostname.sanitize = some (i.claim request).hostname := by
  cases hname : request.hostname.bind Hostname.sanitize with
  | none => exact absurd (by rw [claim, hname]; rfl) h
  | some hostname => rw [claim, hname]; rfl

namespace Allocation

variable {now retries : ℕ} {claim : Claim} {s : Scope} {ip : IpAddr}

lemma openRound_of_kept {again : Conflict → Scope → Progress × Scope}
    {result : Except LeaseError Lease} {s' : Scope}
    (h : keepLease now claim.request.client s = (some result, s')) :
    openRound now claim retries again s = (.done result, s') := by
  simp only [openRound, h]

/-- What comes of opening a round whatever would follow a lost race comes of the round. -/
lemma round_of_openRound {r : Progress × Scope}
    (h : ∀ retries again, openRound now claim retries again s = r) (retries : ℕ) :
    round now claim retries s = r := by
  obtain ⟨again, hround⟩ := round_eq_openRound now claim retries s
  rw [hround, h]

/-- A round that is over in its first step, whatever would follow a lost race. A conflict is with
the client that has the hostname. -/
def Over (now : ℕ) (claim : Claim) (s : Scope) : Prop :=
  ∃ result s', (∀ retries, round now claim retries s = (.done result, s')) ∧
    ∀ cause, result = .error (.conflict cause) →
      ∃ rival, s.rival claim.hostname claim.request.client = some rival

/-- A round that begins with a probe of an address that it will be able to commit, and with more
probes to come at most. -/
def Probing (now : ℕ) (claim : Claim) (s : Scope) : Prop :=
  claim.Fresh s ∧ ∃ ip attempts, ip ∈ s.free ∧ attempts ≤ maxAttempts ∧
    ∀ retries, round now claim retries s = (.probing ⟨claim, ip, [], attempts, retries⟩, s.hold ip)

lemma round_alike_of_fresh (hfresh : claim.Fresh s) (h : s.Sound) (now : ℕ) :
    Over now claim s ∨ Probing now claim s := by
  cases hfirst : reserveFirst claim s with
  | none =>
    have hopen : ∀ retries again, openRound now claim retries again s =
        (.done (.error .poolExhausted), s) :=
      fun _ _ => openRound_of_first_none hfresh h hfirst
    exact .inl ⟨_, s, round_of_openRound hopen, by simp⟩
  | some first =>
    obtain ⟨ip, attempts, s'⟩ := first
    obtain ⟨hattempts, -⟩ := reserveFirst_attempts h.pool hfirst
    obtain ⟨hoffered, ⟨hunleased, hunreserved⟩, rfl⟩ :=
      reserveFirst_eq_some h.pool hfresh.stateful hfirst
    have hip : ip ∈ s.free := (Scope.mem_free_iff h).2 ⟨hoffered.2, hunleased, hunreserved⟩
    by_cases hoff : claim.probeTimeout = 0
    · have hopen : ∀ retries again, openRound now claim retries again s =
          (.done (.ok (leaseFor now claim ip s)),
            s.change (.commit (leaseFor now claim ip s))) := by
        intro retries again
        rw [openRound_of_first hfresh h hfirst, if_pos hoff, conclude_hold hfresh h hip]
      exact .inl ⟨_, _, round_of_openRound hopen, by simp⟩
    · refine .inr ⟨hfresh, ip, attempts, hip, hattempts, ?_⟩
      intro retries
      obtain ⟨again, hround⟩ := round_eq_openRound now claim retries s
      rw [hround, openRound_of_first hfresh h hfirst, if_neg hoff]

/-- An undisturbed round begins in the same way however many retries are left. -/
theorem round_alike (h : s.Sound) (hdeadline : claim.request.deadline = none) (now : ℕ) :
    Over now claim s ∨ Probing now claim s := by
  rcases keepLease_cases h now claim.request.client with
    ⟨hclient, -⟩ | ⟨held, -, ⟨-, hkept⟩ | ⟨-, hkept⟩⟩
  · cases hstateful : s.pool.stateful with
    | false =>
      have hopen : ∀ retries again, openRound now claim retries again s = _ :=
        fun _ _ => openRound_off hclient hstateful
      exact .inl ⟨_, s, round_of_openRound hopen, by simp⟩
    | true =>
      cases hrival : s.rival claim.hostname claim.request.client with
      | some rival =>
        have hopen : ∀ retries again, openRound now claim retries again s = _ :=
          fun _ _ => openRound_rival h hclient hstateful hrival
        exact .inl ⟨_, s, round_of_openRound hopen, fun _ _ => ⟨rival, hrival⟩⟩
      | none => exact round_alike_of_fresh ⟨hstateful, hclient, hrival, hdeadline⟩ h now
  · exact .inl ⟨_, _, round_of_openRound fun _ _ => openRound_of_kept hkept, by simp⟩
  · exact .inl ⟨_, _, round_of_openRound fun _ _ => openRound_of_kept hkept, by simp⟩

/-- The answer to a probe beside which nothing else happens does not depend on the retries that are
left. It leads to the end, without a conflict, or to the next candidate. -/
lemma answer_alike {p : Pending} (h : s.Sound) (hfresh : p.claim.Fresh s) (hip : p.ip ∈ s.free)
    (now : ℕ) (busy : Bool) :
    (∃ result s', (∀ cause, result ≠ .error (.conflict cause)) ∧
        ∀ retries, answer now { p with retries } busy (s.hold p.ip) = (.done result, s')) ∨
      ∃ ip attempts, attempts < p.attempts ∧ ip ∈ s.free ∧
        ∀ retries, answer now { p with retries } busy (s.hold p.ip) =
          (.probing ⟨p.claim, ip, p.ip :: p.excluded, attempts, retries⟩, s.hold ip) := by
  cases busy with
  | false =>
    let l := leaseFor now p.claim p.ip s
    refine .inl ⟨.ok l, s.change (.commit l), by simp, ?_⟩
    intro retries
    exact answer_free (p := { p with retries }) hfresh h hip now
  | true =>
    cases hnext : reserveNext (p.ip :: p.excluded) s p.attempts with
    | none =>
      refine .inl ⟨.error .poolExhausted, s, by simp, ?_⟩
      intro retries
      simp only [answer, if_true, giveUp_hold, hnext]
    | some next =>
      obtain ⟨ip, attempts, s'⟩ := next
      obtain ⟨hattempts, -⟩ := reserveNext_attempts h.pool hnext
      obtain ⟨⟨-, hrange⟩, ⟨hunleased, hunreserved⟩, rfl⟩ := reserveNext_eq_some h.pool hnext
      refine .inr ⟨ip, attempts, by omega,
        (Scope.mem_free_iff h).2 ⟨hrange, hunleased, hunreserved⟩, ?_⟩
      intro retries
      simp only [answer, if_true, giveUp_hold, hnext]

end Allocation

namespace Fleet

open Allocation

variable {place depth n n' : ℕ} {outer : List (Option ℕ)}
  {s : Session Fleet FleetCommand Reply} {base : Interface} {b : Scope} {p : Pending}

/-- Whether the interface at a place stays as it is in all probes that an allocation goes on to
make. -/
def Spared (place depth : ℕ) (outer : List (Option ℕ)) (activity : Activity ℕ Reply)
    (s : Session Fleet FleetCommand Reply) : Prop :=
  Session.Spared world (Session.probe world outer (Session.carryOut world depth))
    (·.interfaces[place]?) activity s

lemma follow_replied {frames : ℕ} {probe : Pending → Session Fleet FleetCommand Reply →
      Except (Fin (frames + 1)) Bool × Session Fleet FleetCommand Reply} (n : ℕ) (reply : Reply)
    (s : Session Fleet FleetCommand Reply) :
    Session.follow world probe n (.replied reply) s = (.ok reply, s) := by
  cases n <;> rfl

/-- An allocation that waits for a probe beside which nothing else happens goes on in the same way
however many retries are left, and ends without a conflict. -/
lemma follow_alike (h : b.Sound) (hfresh : p.claim.Fresh b) (hip : p.ip ∈ b.free)
    (hi : s.world.interfaces[place]? = some (base.setScope (b.hold p.ip) p.claim.request.family))
    (hspared : Spared place depth outer (.waiting place p) s) (hn : p.attempts < n)
    (hn' : p.attempts < n') (retries : ℕ) :
    let probe := Session.probe world outer (Session.carryOut world depth)
    Session.follow world probe n (.waiting place p) s =
        Session.follow world probe n' (.waiting place { p with retries }) s ∧
      ∀ cause, (Session.follow world probe n (.waiting place p) s).1 ≠
        .ok (.lease (.error (.conflict cause))) := by
  -- by induction on the probes, the last of which is reached when no attempt is left
  induction n generalizing n' p s with
  | zero => omega
  | succ n ih =>
    obtain ⟨n', rfl⟩ : ∃ m, n' = m + 1 := ⟨n' - 1, by omega⟩
    -- a prober does not know how many retries are left
    have hprobe' : Session.probe world outer (Session.carryOut world depth) { p with retries } s =
        Session.probe world outer (Session.carryOut world depth) p s := rfl
    obtain ⟨hsame, hrest⟩ := Session.spared_waiting_iff.1 hspared
    rcases hprobe : Session.probe world outer (Session.carryOut world depth) p s with
      ⟨result, s₁⟩
    rw [hprobe, hi] at hsame
    rw [hprobe] at hprobe'
    simp only [Session.follow, hprobe, hprobe']
    rcases result with ⟨j, hj⟩ | busy
    · -- the probe was cut short, so that the allocation ends with it
      cases j with
      | zero =>
        simp only [expire_of_some hsame]
        exact ⟨rfl, by simp⟩
      | succ j =>
        simp only [withdraw_of_some hsame]
        exact ⟨rfl, by simp⟩
    · have hlater := hrest busy s₁ hprobe
      simp only [resume_of_some hsame] at hlater ⊢
      have hresume : ∀ retries, (base.setScope (b.hold p.ip) p.claim.request.family).resume
          s₁.world.clock { p with retries } busy =
          ((answer s₁.world.clock { p with retries } busy (b.hold p.ip)).1,
            base.setScope (answer s₁.world.clock { p with retries } busy (b.hold p.ip)).2
              p.claim.request.family) :=
        fun retries => Interface.resume_setScope rfl _ _
      have hown := hresume p.retries
      rcases answer_alike h hfresh hip s₁.world.clock busy with
        ⟨result, s', hconflict, hanswer⟩ | ⟨ip, attempts, hlt, hfree, hanswer⟩
      · rw [hanswer] at hown
        simp only [hown, hresume retries, hanswer, Progress.activity, Activity.under, follow_replied]
        simpa using hconflict
      · rw [hanswer] at hown
        simp only [hown, hresume retries, hanswer, Progress.activity, Activity.under] at hlater ⊢
        have hi₁ := interface_replace hsame (base.setScope (b.hold ip) p.claim.request.family)
        have hn₁ : attempts < n := by omega
        have hn₁' : attempts < n' := by omega
        exact ih (p := ⟨p.claim, ip, p.ip :: p.excluded, attempts, p.retries⟩)
          (s := s₁.setWorld _) hfresh hfree hi₁ hlater hn₁ hn₁'

/-- What comes of the first step of a round that an allocation opens on a scope of the interface at
a place. -/
def openRoundAt (place : ℕ) (claim : Claim) (base : Interface) (b : Scope)
    (s : Session Fleet FleetCommand Reply) (retries : ℕ) :
    Activity ℕ Reply × Session Fleet FleetCommand Reply :=
  let (progress, scope) := round s.world.clock claim retries b
  (progress.activity.under place,
    s.setWorld (s.world.replace place (base.setScope scope claim.request.family)))

/-- The session goes on with an allocation that opens a round. -/
def followRound (place depth : ℕ) (outer : List (Option ℕ)) (claim : Claim) (base : Interface)
    (b : Scope) (s : Session Fleet FleetCommand Reply) (n retries : ℕ) :
    Except (Fin outer.length) Reply × Session Fleet FleetCommand Reply :=
  let (activity, s) := openRoundAt place claim base b s retries
  Session.follow world (Session.probe world outer (Session.carryOut world depth)) n activity s

/-- The command to allocate an address opens a round. -/
lemma carryOut_eq_followRound {i : Interface} {r : ClientRequest}
    (hi : s.world.interfaces[place]? = some i) (hs : i.scope? r.family = some b)
    (hclient : r.client.validateFor r.family = .ok ()) :
    Session.carryOut world (depth + 1) outer (.on place (.allocate r)) s =
      followRound place depth outer (i.claim (r.at s.world.clock)) i b s maxProbes maxRetries := by
  have hbegin : i.begin s.world.clock (r.at s.world.clock) = _ :=
    Interface.begin_of_scope? hs hclient s.world.clock
  rw [Session.carryOut, submit_allocate_of_some hi, hbegin]
  rfl

/-- It does not matter which interface has been at the place where the round is opened. -/
lemma followRound_replace (i : Interface) (claim : Claim) (n retries : ℕ) :
    followRound place depth outer claim base b (s.setWorld (s.world.replace place i)) n retries =
      followRound place depth outer claim base b s n retries := by
  simp only [followRound, openRoundAt, Session.setWorld, replace, List.set_set]

/-- An allocation that opens a round beside which nothing else happens comes to the same however
many retries are left, and to a conflict only with the client that has the hostname. -/
lemma followRound_alike {claim : Claim} {i : Interface} (h : b.Sound)
    (hdeadline : claim.request.deadline = none) (hi : s.world.interfaces[place]? = some i)
    {retries : ℕ} (hspared : Spared place depth outer (openRoundAt place claim base b s retries).1
      (openRoundAt place claim base b s retries).2)
    (hn : maxAttempts < n) (hn' : maxAttempts < n') (retries' : ℕ) :
    followRound place depth outer claim base b s n retries =
        followRound place depth outer claim base b s n' retries' ∧
      ∀ cause, (followRound place depth outer claim base b s n retries).1 =
          .ok (.lease (.error (.conflict cause))) →
        ∃ rival, b.rival claim.hostname claim.request.client = some rival := by
  rcases round_alike h hdeadline s.world.clock with
    ⟨result, s', hround, hconflict⟩ | ⟨hfresh, ip, attempts, hip, hle, hround⟩
  · simp only [followRound, openRoundAt, hround, Progress.activity, Activity.under, follow_replied]
    exact ⟨trivial, by simpa using hconflict⟩
  · simp only [followRound, openRoundAt, hround, Progress.activity, Activity.under] at hspared ⊢
    have hi' := interface_replace hi (base.setScope (b.hold ip) claim.request.family)
    have hlt : attempts < n := by omega
    have hlt' : attempts < n' := by omega
    obtain ⟨heq, hne⟩ := follow_alike (p := ⟨claim, ip, [], attempts, retries⟩)
      (s := s.setWorld _) h hfresh hip hi' hspared hlt hlt' retries'
    exact ⟨heq, fun cause hcause => absurd hcause (hne cause)⟩

end Fleet

namespace Desk

open Allocation

variable {left start : Interface} {p : Pending} {waiting : List Pending} {scope : Scope}
  {now retries : ℕ} {cause : Conflict}

/-- What follows a commit that is refused is another round, on the interface on which the
reservation is given up. -/
lemma Sound.resume_lost (h : Sound ⟨left, waiting⟩) (hs : left.scope? p.family = some scope)
    (hdeadline : p.claim.request.deadline = none) (hretries : p.retries = retries + 1)
    (hlost : (scope.table.commit (leaseFor now p.claim p.ip scope)).1 = .error (.conflict cause)) :
    left.resume now p false =
      ((round now p.claim retries (giveUp p.ip scope)).1,
        (left.abandon p).setScope (round now p.claim retries (giveUp p.ip scope)).2 p.family) := by
  have hlate : isLate now p.claim = false := by simp [isLate, hdeadline]
  have hanswer : answer now p false scope = round now p.claim retries (giveUp p.ip scope) := by
    rcases LeaseTable.commit_cases (h.interface.scope hs).table
        (leaseFor now p.claim p.ip scope) with ⟨e, hcommit⟩ | ⟨-, -, hcommit⟩
    · rw [hcommit] at hlost
      obtain rfl := Except.error.inj hlost
      simp only [answer, Bool.false_eq_true, if_false, conclude, hlate, hcommit, retry, hretries]
    · rw [hcommit] at hlost
      simp at hlost
  rw [Interface.resume_of_scope? hs, hanswer]

/-- Interfaces that are configured alike make the same claims of a request. -/
lemma claim_eq_of_emptied {i i' : Interface} (h : i.emptied = i'.emptied) (request : Request) :
    i.claim request = i'.claim request := by
  have hname : i.emptied.name = i'.emptied.name := by rw [h]
  have htimeout : i.emptied.probeTimeout = i'.emptied.probeTimeout := by rw [h]
  replace hname : i.name = i'.name := hname
  replace htimeout : i.probeTimeout = i'.probeTimeout := htimeout
  simp only [Interface.claim, hname, htimeout]

/-- The interface on which a call gives up an address is one on which the call could begin. -/
lemma Course.could_begin {request : Request} {probes : List (IpAddr × Bool)}
    {found i origin : Interface}
    (hcourse : Course request start probes now found (.probing p, i))
    (hd : Reachable origin ⟨start, waiting⟩) (horigin : Sound ⟨origin, []⟩)
    (hmeanwhile : Meanwhile i left) :
    Sound ⟨left, p :: waiting⟩ ∧ Sound ⟨left.abandon p, waiting⟩ ∧
      (left.abandon p).claim request = p.claim ∧
      request.client.validateFor request.family = .ok () := by
  have hwait : Reachable origin ⟨left, p :: waiting⟩ :=
    (hcourse.reachable hd).trans (hmeanwhile.beside _)
  have hgiven : Reachable origin ⟨left.abandon p, waiting⟩ :=
    hwait.tail (.abandon left p [] waiting)
  obtain ⟨hstart, hstartConfig⟩ := horigin.run hd
  obtain ⟨hwait, -⟩ := horigin.run hwait
  obtain ⟨hgiven, hgivenConfig⟩ := horigin.run hgiven
  have hclaim : p.claim = start.claim request := (hcourse.accounts hstart).claim_eq
  refine ⟨hwait, hgiven, ?_, ?_⟩
  · rw [hclaim]
    exact claim_eq_of_emptied (hgivenConfig.trans hstartConfig.symm) request
  · obtain ⟨s, hs, hfits, -⟩ := hwait.hosts List.mem_cons_self
    have hclient := hfits.client
    rwa [hwait.interface.family hs, Pending.family, hclaim] at hclient

/-- In the first round of a call no probe has found an address free. -/
lemma Accounts.of_first_round {request : Request} {probes : List (IpAddr × Bool)}
    (h : Accounts request start probes p) (hfirst : ∀ probe ∈ probes, probe.2 = true) :
    p.retries = maxRetries ∧ probes.length ≤ maxAttempts := by
  have hfree : probes.countP (!·.2) = 0 := by
    rw [List.countP_eq_zero]
    intro probe hprobe
    simp [hfirst probe hprobe]
  have hround : inRound probes = probes.map (·.1) := by
    rw [inRound, List.takeWhile_eq_self_iff.2 hfirst]
  have hretries := h.retries_eq
  have hattempts := h.attempts_le
  rw [h.excluded_eq, hround, List.length_map] at hattempts
  omega

end Desk

namespace Fleet

open Allocation

/-- Whether an allocation in a session loses its first race: the first address that is found free,
`p` waits for it, cannot be leased when the session has got to `s₂`, on the interface `left`. -/
structure LosesRace (place depth : ℕ) (outer : List (Option ℕ)) (r : ClientRequest)
    (s : Session Fleet FleetCommand Reply) (p : Pending) (s₂ : Session Fleet FleetCommand Reply)
    (left : Interface) : Prop where
  found : ∃ probes s₁, Allocates place depth outer r s probes (.waiting place p) s₁ ∧
    (∀ probe ∈ probes, probe.2 = true) ∧
    Session.probe world outer (Session.carryOut world depth) p s₁ = (.ok false, s₂)
  interface : s₂.world.interfaces[place]? = some left
  refused : ∃ scope cause, left.scope? r.family = some scope ∧
    (scope.table.commit (leaseFor s₂.world.clock p.claim p.ip scope)).1 = .error (.conflict cause)

namespace LosesRace

variable {place depth : ℕ} {outer : List (Option ℕ)} {s s₂ : Session Fleet FleetCommand Reply}
  {r : ClientRequest} {origin start left : Interface} {p : Pending} {waiting : List Pending}

/-- What is known when the race is lost: the allocation could begin at this point, and it has the
retry left, and enough probes for one more round. -/
lemma facts (h : LosesRace place depth outer r s p s₂ left)
    (hi : s.world.interfaces[place]? = some start) (hd : Desk.Reachable origin ⟨start, waiting⟩)
    (horigin : Desk.Sound ⟨origin, []⟩) (hpatience : r.patience = none) :
    Desk.Sound ⟨left, p :: waiting⟩ ∧ Desk.Sound ⟨left.abandon p, waiting⟩ ∧
      p.claim = (left.abandon p).claim (r.at s₂.world.clock) ∧
      r.client.validateFor r.family = .ok () ∧ p.retries = maxRetries ∧
      ∃ n, maxAttempts < n ∧
        Session.carryOut world (depth + 1) outer (.on place (.allocate r)) s =
          Session.follow world (Session.probe world outer (Session.carryOut world depth)) n
            (world.resume place p false s₂.world).1
            (s₂.setWorld (world.resume place p false s₂.world).2) := by
  obtain ⟨probes, s₁, hallocates, hfirst, hprobe⟩ := h.found
  have hstart : Desk.Sound ⟨start, waiting⟩ := (horigin.run hd).1
  obtain ⟨n, hn, hcarry⟩ := hallocates.carryOut_eq hi hstart
  obtain ⟨-, found, i₁, left', hcourse, hmeanwhile, hleft⟩ := hallocates.probed hi hprobe
  obtain rfl : left = left' := Option.some.inj (h.interface.symm.trans hleft)
  obtain ⟨hretries, hlength⟩ := (hcourse.accounts hstart).of_first_round hfirst
  obtain ⟨hwait, hgiven, hclaim, hvalid⟩ := hcourse.could_begin hd horigin hmeanwhile
  have hrequest : r.at s₂.world.clock = r.at s.world.clock := by
    simp [ClientRequest.at, hpatience]
  refine ⟨hwait, hgiven, hrequest ▸ hclaim.symm, hvalid, hretries, n, ?_, ?_⟩
  · simp only [maxAttempts, maxProbes, maxRetries] at hlength hn ⊢
    omega
  · rw [hcarry, Session.follow, hprobe]

/-- The allocation goes on with another round, and so does one that begins there. They differ in the
retries and the probes that are left. -/
lemma rounds (h : LosesRace place depth outer r s p s₂ left)
    (hi : s.world.interfaces[place]? = some start) (hd : Desk.Reachable origin ⟨start, waiting⟩)
    (horigin : Desk.Sound ⟨origin, []⟩) (hpatience : r.patience = none) :
    let given := left.abandon p
    let command : FleetCommand := .on place (.allocate r)
    ∃ n b, maxAttempts < n ∧ b.Sound ∧ given.scope? r.family = some b ∧
      (world.resume place p false s₂.world).1 =
        (openRoundAt place (given.claim (r.at s₂.world.clock)) given b s₂ 0).1 ∧
      s₂.setWorld (world.resume place p false s₂.world).2 =
        (openRoundAt place (given.claim (r.at s₂.world.clock)) given b s₂ 0).2 ∧
      Session.carryOut world (depth + 1) outer command s =
        followRound place depth outer (given.claim (r.at s₂.world.clock)) given b s₂ n 0 ∧
      Session.carryOut world (depth + 1) outer command
          (s₂.setWorld (s₂.world.replace place given)) =
        followRound place depth outer (given.claim (r.at s₂.world.clock)) given b s₂ maxProbes
          maxRetries := by
  intro given command
  obtain ⟨hwait, hgiven, hclaim, hvalid, hretries, n, hn, hcarry⟩ := h.facts hi hd horigin hpatience
  obtain ⟨scope, cause, hs, hlost⟩ := h.refused
  have hfamily : p.claim.request.family = r.family := by
    rw [hclaim]
    rfl
  have hdeadline : p.claim.request.deadline = none := by
    rw [hclaim]
    simp [Interface.claim, ClientRequest.at, hpatience]
  rw [← hfamily] at hs
  have hscope : given.scope? p.claim.request.family = some (giveUp p.ip scope) :=
    Interface.scope?_abandon hs
  have hresume : ((world.resume place p false s₂.world).1,
        s₂.setWorld (world.resume place p false s₂.world).2) =
      openRoundAt place p.claim given (giveUp p.ip scope) s₂ 0 := by
    rw [resume_of_some h.interface, hwait.resume_lost hs hdeadline hretries hlost]
    rfl
  refine ⟨n, giveUp p.ip scope, hn, hgiven.interface.scope hscope, hfamily ▸ hscope,
    congrArg Prod.fst (hclaim ▸ hresume), congrArg Prod.snd (hclaim ▸ hresume), ?_, ?_⟩
  · rw [hcarry, ← hclaim, followRound, ← hresume]
  · rw [carryOut_eq_followRound (interface_replace h.interface _) (hfamily ▸ hscope) hvalid,
      followRound_replace]
    rfl

end LosesRace

end Fleet

namespace Desk

open Allocation

variable {name : String} {c : InterfaceConfig} {probeTimeout : ℕ}

/-- **A lost race fails no request.** On every interface that can be reached, whatever happens in
the first round of an allocation without a deadline: if the address that has been found free cannot
be leased because of a conflict, and the interface stays as it is in the probes from then on, the
session comes to the same as one in which the allocation only begins there, after the reservation
has been given up. A client that holds a lease by then gets this one, renewed unless it is static. A
conflict is the reply only if another client has the hostname by then. -/
theorem lost_race_starts_over {start left : Interface} {waiting : List Pending} {place depth : ℕ}
    {outer : List (Option ℕ)} {r : ClientRequest} {p : Pending}
    {s s₂ : Session Fleet FleetCommand Reply}
    (hd : Reachable (.ofConfig name c probeTimeout) ⟨start, waiting⟩)
    (hi : s.world.interfaces[place]? = some start) (hpatience : r.patience = none)
    (hloses : Fleet.LosesRace place depth outer r s p s₂ left)
    (hspared : Fleet.Spared place depth outer (Fleet.world.resume place p false s₂.world).1
      (s₂.setWorld (Fleet.world.resume place p false s₂.world).2)) :
    let given := left.abandon p
    let command : FleetCommand := .on place (.allocate r)
    let result := Session.carryOut Fleet.world (depth + 1) outer command s
    result = Session.carryOut Fleet.world (depth + 1) outer command
        (s₂.setWorld (s₂.world.replace place given)) ∧
      (∀ held, given.leaseByHw r.family r.client = some held →
        ∃ d, given.leaseDuration? r.family = some d ∧
          result.1 = .ok (.lease (.ok (held.renew (.ofMillis s₂.world.clock) d)))) ∧
      ∀ cause, result.1 = .ok (.lease (.error (.conflict cause))) →
        ∃ hostname, r.hostname.bind Hostname.sanitize = some hostname ∧
          ∃ rival ∈ given.leases, rival.family = r.family ∧ rival.hwAddr ≠ r.client ∧
            lowercase rival.hostname = lowercase hostname := by
  intro given command result
  have horigin := Sound.ofConfig name c probeTimeout
  obtain ⟨-, hgiven, -⟩ := hloses.facts hi hd horigin hpatience
  obtain ⟨n, b, hn, hb, hscope, hactivity, hsession, hown, hfresh⟩ :=
    hloses.rounds hi hd horigin hpatience
  have hmax : maxAttempts < maxProbes := by decide
  have hdeadline : (given.claim (r.at s₂.world.clock)).request.deadline = none := by
    simp [Interface.claim, ClientRequest.at, hpatience]
  rw [hactivity, hsession] at hspared
  obtain ⟨halike, hconflict⟩ :=
    Fleet.followRound_alike hb hdeadline hloses.interface hspared hn hmax maxRetries
  have hresult : result = _ := hown.trans (halike.trans hfresh.symm)
  refine ⟨hresult, ?_, ?_⟩
  · intro held hheld
    have hasked : given.leaseByHw (r.at s₂.world.clock).family (r.at s₂.world.clock).client =
        some held := hheld
    obtain ⟨d, i', hd, hbegin⟩ :=
      Interface.begin_of_held hgiven.interface hasked s₂.world.clock
    have hplace := Fleet.interface_replace hloses.interface given
    have hbegun := carryOut_of_begin (s := s₂.setWorld _) hplace hbegin (depth + 1) outer
    exact ⟨d, hd, congrArg Prod.fst (hresult.trans hbegun)⟩
  · intro cause hcause
    obtain ⟨rival, hrival⟩ := hconflict cause (hown ▸ hcause)
    obtain ⟨hl, hother, hname, hshares⟩ := Scope.rival_eq_some hrival
    have hfamily : rival.family = r.family := hgiven.interface.family_of_mem hscope hl
    exact ⟨_, Interface.hostname_claim hname, rival, Interface.mem_leases_iff.2 ⟨_, b, hscope, hl⟩,
      hfamily, hother, hshares⟩

/-- A client of the default configuration loses the first address to an operator while it is probed.
It gets the next one, like a client that asks after that. -/
theorem exists_lost_race_starts_over : ∃ r p s s₂ left l,
    Fleet.LosesRace 0 0 [] r s p s₂ left ∧
      Session.carryOut Fleet.world 1 [] (.on 0 (.allocate r)) s =
        Session.carryOut Fleet.world 1 [] (.on 0 (.allocate r))
          (s₂.setWorld (s₂.world.replace 0 (left.abandon p))) ∧
      (left.abandon p).leases.length = 1 ∧ l.ip = .v4 (.ofBytes 192 168 1 101) ∧
      (Session.carryOut Fleet.world 1 [] (.on 0 (.allocate r)) s).1 = .ok (.lease (.ok l)) := by
  let start : Interface := .ofConfig "eth0" ⟨some .default, some .default⟩ 1000
  let r : ClientRequest := ⟨⟨[2, 0, 0, 0, 0, 1]⟩, .v4, none, some "Lamp", none⟩
  let other : Lease := .static (.v4 (.ofBytes 192 168 1 100)) ⟨[2, 0, 0, 0, 0, 2]⟩ "printer"
  let prober : Prober FleetCommand := fun probed _ =>
    ⟨false, 10, if probed = [] then [.on 0 (.addLease other)] else []⟩
  let s : Session Fleet FleetCommand Reply := ⟨.ofInterfaces [start] 0 none, some prober, [], []⟩
  let probe := Session.probe Fleet.world [] (Session.carryOut Fleet.world 0)
  let p₁ : Pending := ⟨start.claim (r.at 0), .v4 (.ofBytes 192 168 1 100), [], 7, 1⟩
  let p₂ : Pending := ⟨start.claim (r.at 0), .v4 (.ofBytes 192 168 1 101), [], 7, 0⟩
  let l : Lease := .dynamic (.ofMillis 20) p₂.ip r.client "lamp" (.ofSeconds 86400)
  have hd : Reachable start ⟨start, []⟩ := .refl
  have hi : s.world.interfaces[0]? = some start := rfl
  obtain ⟨i₁, hbegin, s₂, left, hprobe, hleft, hlost, hleases, i₂, s₄, i₄, hresume, hsecond,
      hsame, hdone⟩ :
      ∃ i₁, start.begin s.world.clock (r.at s.world.clock) = (.probing p₁, i₁) ∧
      ∃ s₂ left, probe p₁ (s.setWorld (s.world.replace 0 i₁)) = (.ok false, s₂) ∧
        s₂.world.interfaces[0]? = some left ∧
        (left.scope? r.family).map (fun scope =>
            (scope.table.commit (leaseFor s₂.world.clock p₁.claim p₁.ip scope)).1) =
          some (.error (.conflict (.addressLeased p₁.ip other.hwAddr))) ∧
        (left.abandon p₁).leases.length = 1 ∧
      ∃ i₂ s₄ i₄, left.resume s₂.world.clock p₁ false = (.probing p₂, i₂) ∧
        probe p₂ (s₂.setWorld (s₂.world.replace 0 i₂)) = (.ok false, s₄) ∧
        s₄.world.interfaces[0]? = some i₂ ∧
        i₂.resume s₄.world.clock p₂ false = (.done (.ok l), i₄) := by
    let i₁ := (start.begin 0 (r.at 0)).2
    let s₂ := (probe p₁ (s.setWorld (s.world.replace 0 i₁))).2
    let left := (i₁.addLease other).2
    let i₂ := (left.resume 10 p₁ false).2
    let s₄ := (probe p₂ (s₂.setWorld (s₂.world.replace 0 i₂))).2
    let i₄ := (i₂.resume s₄.world.clock p₂ false).2
    exact ⟨i₁, Prod.fst_eq_iff.1 (by decide +kernel), s₂, left,
      Prod.fst_eq_iff.1 (by decide +kernel), by decide +kernel, by decide +kernel,
      by decide +kernel, i₂, s₄, i₄, Prod.fst_eq_iff.1 (by decide +kernel),
      Prod.fst_eq_iff.1 (by decide +kernel), by decide +kernel,
      Prod.fst_eq_iff.1 (by decide +kernel)⟩
  obtain ⟨scope, hs, hlost⟩ := Option.map_eq_some_iff.1 hlost
  have hfirst : Fleet.Allocates 0 0 [] r s [] (.waiting 0 p₁)
      (s.setWorld (s.world.replace 0 i₁)) := by
    rw [Fleet.Allocates, Fleet.submit_allocate_of_some hi, hbegin]
    exact .refl
  have hnext : Fleet.Allocates 0 0 [] r s [(p₁.ip, false)] (.waiting 0 p₂)
      (s₂.setWorld (s₂.world.replace 0 i₂)) := by
    have hanswered := hfirst.answered hprobe
    rwa [Fleet.resume_of_some hleft, hresume] at hanswered
  have hover : Fleet.Allocates 0 0 [] r s [(p₂.ip, false), (p₁.ip, false)]
      (.replied (.lease (.ok l))) (s₄.setWorld (s₄.world.replace 0 i₄)) := by
    have hanswered := hnext.answered hsecond
    rwa [Fleet.resume_of_some hsame, hdone] at hanswered
  have hspared : Fleet.Spared 0 0 [] (Fleet.world.resume 0 p₁ false s₂.world).1
      (s₂.setWorld (Fleet.world.resume 0 p₁ false s₂.world).2) := by
    rw [Fleet.resume_of_some hleft, hresume]
    refine Session.spared_waiting_iff.2 ⟨?_, ?_⟩
    · have hunchanged := hsame.trans (Fleet.interface_replace hleft i₂).symm
      rwa [show s₄ = _ from (congrArg Prod.snd hsecond).symm] at hunchanged
    · intro busy s' hprobe'
      obtain ⟨hbusy, rfl⟩ := Prod.mk.inj (hsecond.symm.trans hprobe')
      obtain rfl := Except.ok.inj hbusy
      rw [Fleet.resume_of_some hsame, hdone]
      exact Session.spared_replied _ _
  have hloses : Fleet.LosesRace 0 0 [] r s p₁ s₂ left :=
    ⟨⟨[], _, hfirst, by simp, hprobe⟩, hleft, scope, _, hs, hlost⟩
  have hreply : Session.carryOut Fleet.world 1 [] (.on 0 (.allocate r)) s =
      (.ok (.lease (.ok l)), s₄.setWorld (s₄.world.replace 0 i₄)) :=
    (Session.follow_of_follows hover 16).trans (Fleet.follow_replied 16 _ _)
  exact ⟨r, p₁, s, s₂, left, l, hloses, (lost_race_starts_over hd hi rfl hloses hspared).1,
    hleases, rfl, congrArg Prod.fst hreply⟩

end Desk

end DhcpLeasing
