import DhcpLeasing.Proofs.Allocation.Candidates
import DhcpLeasing.Proofs.Interface.Allocation

/-!
# Undisturbed allocations

What an allocation comes to when nothing else happens on its interface. `Interface.alone` takes its
steps one after another, with the answers of a prober. `Interface.allotted` says without any steps
what comes of it: the addresses that are probed, and the result. `Interface.comes_allotted` shows
that the two agree on a sound interface.
-/

namespace DhcpLeasing

open Text

/-- The lease of a hostname, if another client has it. -/
def Scope.rival (hostname : String) (client : HwAddr) (s : Scope) : Option Lease :=
  if hostname = "" then none
  else (s.table.leases.find? fun l => lowercase l.hostname = lowercase hostname).filter
    (·.hwAddr ≠ client)

/-- Whether a claim is that of a client that can be given a new lease. -/
structure Claim.Fresh (claim : Claim) (s : Scope) : Prop where
  stateful : s.pool.stateful
  client : s.table.lookupByHw claim.request.client = none
  hostname : s.rival claim.hostname claim.request.client = none
  deadline : claim.request.deadline = none

namespace Allocation

variable {now retries : ℕ} {claim : Claim} {s : Scope} {ip : IpAddr} {more : List IpAddr}

lemma hostnameHolder_eq (h : s.Sound) (claim : Claim) :
    hostnameHolder claim s = (s.rival claim.hostname claim.request.client).map (·.hwAddr) := by
  unfold hostnameHolder Scope.rival
  by_cases hname : claim.hostname = ""
  · simp [hname, LeaseTable.lookupByHostname]
  · rw [if_neg hname, h.table.lookupByHostname_eq_find? hname]
    cases s.table.leases.find? fun l => lowercase l.hostname = lowercase claim.hostname with
    | none => rfl
    | some l =>
      by_cases hl : l.hwAddr = claim.request.client
      · simp [hl]
      · simp [hl]

/-- A claim that can be given a new lease gets the commit of any free address through. -/
lemma admits_leaseFor (hfresh : claim.Fresh s) (h : s.Sound) (hip : ip ∈ s.free) (now : ℕ) :
    s.table.Admits (leaseFor now claim ip s) := by
  intro ip' m hm hshares
  obtain ⟨-, hunleased, -⟩ := (Scope.mem_free_iff h).1 hip
  have hother : m.hwAddr ≠ claim.request.client := by
    intro heq
    have hheld : s.table.lookupByHw claim.request.client = some m :=
      h.table.lookupByHw_eq_some_iff.2 ⟨by rwa [h.table.ip_eq hm], heq⟩
    rw [hfresh.client] at hheld
    exact Option.some_ne_none _ hheld.symm
  rcases hshares with hshares | hshares | ⟨hname, hmname, hshares⟩
  · -- the address is free
    have heq : ip' = ip := (h.table.ip_eq hm).symm.trans hshares.symm
    rw [heq, hunleased] at hm
    exact absurd hm.symm (Option.some_ne_none _)
  · exact absurd hshares.symm hother
  · -- the hostname is not another client's, and this client has no lease
    have hname : claim.hostname ≠ "" := hname
    have hheld : s.table.lookupByHostname claim.hostname = some m :=
      (h.table.lookupByHostname_eq_some_iff hname).2
        ⟨by rwa [h.table.ip_eq hm], hmname, hshares.symm⟩
    have hrival := hfresh.hostname
    rw [Scope.rival, if_neg hname, ← h.table.lookupByHostname_eq_find? hname, hheld] at hrival
    simp [hother] at hrival

/-- The last step of an allocation that can have the address: it is leased. -/
lemma conclude_hold (hfresh : claim.Fresh s) (h : s.Sound) (hip : ip ∈ s.free) (now : ℕ)
    (again : Conflict → Scope → Progress × Scope) :
    conclude now claim again ip (s.hold ip) =
      (.done (.ok (leaseFor now claim ip s)), s.change (.commit (leaseFor now claim ip s))) := by
  have hlate : isLate now claim = false := by simp [isLate, hfresh.deadline]
  have hfamily : ip.family = s.table.family := by
    rw [h.family]
    exact (AddressPool.inDynamicRange_iff.1 ((Scope.mem_free_iff h).1 hip).1).1
  have hadmits : s.table.Admits (leaseFor now claim ip s) := admits_leaseFor hfresh h hip now
  have hcommit := LeaseTable.commit_of_admits h.table hfamily hadmits
  rw [conclude_eq, giveUp_hold, hlate]
  simp only [hcommit, Bool.false_eq_true, if_false]

/-! ## The first step -/

section Open

variable {again : Conflict → Scope → Progress × Scope}

lemma round_eq_openRound (now : ℕ) (claim : Claim) (retries : ℕ) (s : Scope) :
    ∃ again, round now claim retries s = openRound now claim retries again s := by
  cases retries with
  | zero => exact ⟨_, rfl⟩
  | succ retries => exact ⟨_, rfl⟩

lemma keepLease_of_none (h : s.table.lookupByHw claim.request.client = none) (now : ℕ) :
    keepLease now claim.request.client s = (none, s) := by
  rw [keepLease, h]

lemma openRound_off (hclient : s.table.lookupByHw claim.request.client = none)
    (hoff : s.pool.stateful = false) :
    openRound now claim retries again s =
      (.done (.error (.poolDisabled (.clientsChoose claim.request.family claim.interface))), s) := by
  simp only [openRound, keepLease_of_none hclient, hoff, Bool.not_false, if_true]

lemma openRound_rival {rival : Lease} (h : s.Sound)
    (hclient : s.table.lookupByHw claim.request.client = none) (hstateful : s.pool.stateful)
    (hrival : s.rival claim.hostname claim.request.client = some rival) :
    openRound now claim retries again s =
      (.done (.error (.conflict (.hostnameLeased claim.hostname rival.hwAddr))), s) := by
  have hholder : hostnameHolder claim s = some rival.hwAddr := by
    rw [hostnameHolder_eq h, hrival, Option.map_some]
  simp only [openRound, keepLease_of_none hclient, hstateful, Bool.not_true, Bool.false_eq_true,
    if_false, hholder]

/-- A client without a lease, whose hostname is nobody else's, begins with the first of the
candidates. -/
lemma openRound_of_reserved {attempts : ℕ} {s' : Scope} (h : s.Sound)
    (hclient : s.table.lookupByHw claim.request.client = none) (hstateful : s.pool.stateful)
    (hrival : s.rival claim.hostname claim.request.client = none)
    (hfirst : reserveFirst claim s = some (ip, attempts, s')) :
    openRound now claim retries again s =
      if claim.probeTimeout = 0 then conclude now claim again ip s'
      else (.probing ⟨claim, ip, [], attempts, retries⟩, s') := by
  have hholder : hostnameHolder claim s = none := by
    rw [hostnameHolder_eq h, hrival, Option.map_none]
  simp only [openRound, keepLease_of_none hclient, hstateful, Bool.not_true, Bool.false_eq_true,
    if_false, hholder, hfirst]

lemma openRound_of_first {attempts : ℕ} {s' : Scope} (hfresh : claim.Fresh s) (h : s.Sound)
    (hfirst : reserveFirst claim s = some (ip, attempts, s')) :
    openRound now claim retries again s =
      if claim.probeTimeout = 0 then conclude now claim again ip s'
      else (.probing ⟨claim, ip, [], attempts, retries⟩, s') :=
  openRound_of_reserved h hfresh.client hfresh.stateful hfresh.hostname hfirst

lemma openRound_of_first_none (hfresh : claim.Fresh s) (h : s.Sound)
    (hfirst : reserveFirst claim s = none) :
    openRound now claim retries again s = (.done (.error .poolExhausted), s) := by
  have hholder : hostnameHolder claim s = none := by
    rw [hostnameHolder_eq h, hfresh.hostname, Option.map_none]
  simp only [openRound, keepLease_of_none hfresh.client, hfresh.stateful, Bool.not_true,
    Bool.false_eq_true, if_false, hholder, hfirst]

end Open

lemma round_of_candidates_nil (hfresh : claim.Fresh s) (h : s.Sound)
    (hcandidates : candidates claim.request.wanted s = []) (now retries : ℕ) :
    round now claim retries s = (.done (.error .poolExhausted), s) := by
  obtain ⟨again, hround⟩ := round_eq_openRound now claim retries s
  have hfirst := reserveFirst_of_candidates_nil hfresh.stateful hcandidates
  rw [hround, openRound_of_first_none hfresh h hfirst]

/-- Without probing the first of the candidates is leased. -/
lemma round_unprobed (hfresh : claim.Fresh s) (h : s.Sound) (hoff : claim.probeTimeout = 0)
    (hcandidates : candidates claim.request.wanted s = ip :: more) (now retries : ℕ) :
    round now claim retries s =
      (.done (.ok (leaseFor now claim ip s)), s.change (.commit (leaseFor now claim ip s))) := by
  have hip : ip ∈ s.free := mem_free_of_mem_candidates h (by rw [hcandidates]; exact .head _)
  obtain ⟨again, hround⟩ := round_eq_openRound now claim retries s
  obtain ⟨attempts, hfirst, -⟩ := reserveFirst_of_candidates h hfresh.stateful hcandidates
  rw [hround, openRound_of_first hfresh h hfirst, if_pos hoff]
  exact conclude_hold hfresh h hip now again

/-- With probing the first of the candidates is reserved, and those after it may be tried next. -/
lemma round_probed (hfresh : claim.Fresh s) (h : s.Sound) (hon : claim.probeTimeout ≠ 0)
    (hcandidates : candidates claim.request.wanted s = ip :: more) (now retries : ℕ) :
    ∃ attempts, rest [ip] attempts s = more ∧
      round now claim retries s = (.probing ⟨claim, ip, [], attempts, retries⟩, s.hold ip) := by
  obtain ⟨again, hround⟩ := round_eq_openRound now claim retries s
  obtain ⟨attempts, hfirst, hmore⟩ := reserveFirst_of_candidates h hfresh.stateful hcandidates
  refine ⟨attempts, hmore, ?_⟩
  rw [hround, openRound_of_first hfresh h hfirst, if_neg hon]

/-! ## The steps after a probe -/

variable {p : Pending}

lemma answer_busy_of_rest (h : s.Sound) (hstateful : s.pool.stateful)
    (hrest : rest (p.ip :: p.excluded) p.attempts s = ip :: more) (now : ℕ) :
    ∃ p', p'.claim = p.claim ∧ p'.ip = ip ∧ rest (ip :: p'.excluded) p'.attempts s = more ∧
      answer now p true (s.hold p.ip) = (.probing p', s.hold ip) := by
  refine ⟨{ p with ip, excluded := p.ip :: p.excluded, attempts := p.attempts - 1 }, rfl, rfl,
    rest_cons h hrest, ?_⟩
  simp only [answer, if_true, giveUp_hold, reserveNext_of_rest hstateful hrest]

lemma answer_busy_of_rest_nil (hstateful : s.pool.stateful)
    (hrest : rest (p.ip :: p.excluded) p.attempts s = []) (now : ℕ) :
    answer now p true (s.hold p.ip) = (.done (.error .poolExhausted), s) := by
  simp only [answer, if_true, giveUp_hold, reserveNext_of_rest_nil hstateful hrest]

lemma answer_free (hfresh : p.claim.Fresh s) (h : s.Sound) (hip : p.ip ∈ s.free) (now : ℕ) :
    answer now p false (s.hold p.ip) =
      (.done (.ok (leaseFor now p.claim p.ip s)),
        s.change (.commit (leaseFor now p.claim p.ip s))) := by
  simp only [answer, Bool.false_eq_true, if_false]
  exact conclude_hold hfresh h hip now _

end Allocation

/-! ## Whole allocations -/

namespace Interface

open Allocation

/-- An allocation beside which nothing happens on the interface, after so many probes at most: the
addresses that were probed, and how far it has got. A prober gives the answers `busy`, one after
another, and the steps are taken at `times`. -/
def alone (times : ℕ → ℕ) (busy : ℕ → Bool) (request : Request) (i : Interface) :
    (probes : ℕ) → List IpAddr × Progress × Interface
  | 0 => ([], i.begin (times 0) request)
  | n + 1 =>
    match alone times busy request i n with
    | (probed, .probing p, i) => (probed ++ [p.ip], i.resume (times (n + 1)) p (busy n))
    | ended => ended

/-- What probing the candidates in order comes to: the addresses that are probed, and the result,
which is a lease for the first address that is not in use. -/
def probedInOrder (times : ℕ → ℕ) (busy : ℕ → Bool) (claim : Claim) (s : Scope) :
    List IpAddr × Except LeaseError Lease :=
  let tried := candidates claim.request.wanted s
  match tried.zipIdx.find? fun (_, n) => !busy n with
  | some (ip, n) => (tried.take (n + 1), .ok (leaseFor (times (n + 1)) claim ip s))
  | none => (tried, .error .poolExhausted)

/-- What an allocation comes to: the addresses that are probed, and the result. A client that holds
a lease keeps it. Another one gets the first candidate that does not turn out to be in use, unless
clients choose for themselves or the hostname is another client's. -/
def allotted (times : ℕ → ℕ) (busy : ℕ → Bool) (request : Request) (i : Interface) (s : Scope) :
    List IpAddr × Except LeaseError Lease :=
  let claim := i.claim request
  match s.table.leases.find? (·.hwAddr = request.client) with
  | some held => ([], .ok (held.renew (.ofMillis (times 0)) s.leaseDuration))
  | none =>
    if s.pool.stateful then
      match s.rival claim.hostname request.client with
      | some rival => ([], .error (.conflict (.hostnameLeased claim.hostname rival.hwAddr)))
      | none =>
        if i.probeTimeout ≠ 0 then probedInOrder times busy claim s
        else
          match candidates request.wanted s with
          | [] => ([], .error .poolExhausted)
          | ip :: _ => ([], .ok (leaseFor (times 0) claim ip s))
    else ([], .error (.poolDisabled (.clientsChoose request.family i.name)))

variable {times : ℕ → ℕ} {busy : ℕ → Bool} {request : Request} {i i' : Interface} {s : Scope}
  {n m : ℕ} {probed : List IpAddr} {result : Except LeaseError Lease}

/-- The steps up to some probe do not depend on later times and answers. -/
lemma alone_congr {times' : ℕ → ℕ} {busy' : ℕ → Bool} (htimes : ∀ k ≤ n, times k = times' k)
    (hbusy : ∀ k < n, busy k = busy' k) (i : Interface) :
    alone times busy request i n = alone times' busy' request i n := by
  induction n with
  | zero => rw [alone, alone, htimes 0 le_rfl]
  | succ n ih =>
    rw [alone, alone, ih (fun k hk => htimes k (by omega)) fun k hk => hbusy k (by omega),
      htimes (n + 1) le_rfl, hbusy n (by omega)]

/-- One that waits for a probe goes on with the answer to it. -/
lemma alone_succ {p : Pending} (h : alone times busy request i n = (probed, .probing p, i')) :
    alone times busy request i (n + 1) =
      (probed ++ [p.ip], i'.resume (times (n + 1)) p (busy n)) := by
  rw [alone, h]

/-- An allocation that is over stays so. -/
lemma alone_of_le (h : alone times busy request i n = (probed, .done result, i')) (hle : n ≤ m) :
    alone times busy request i m = (probed, .done result, i') := by
  induction m, hle using Nat.le_induction with
  | base => exact h
  | succ m _ ih => rw [alone, ih]

lemma resume_setScope {p : Pending} (hp : p.claim.request.family = request.family) (now : ℕ)
    (busy : Bool) : (i.setScope s request.family).resume now p busy =
      ((answer now p busy s).1, i.setScope (answer now p busy s).2 request.family) := by
  simp only [resume, hp, scope?_setScope, if_true, setScope_setScope]

lemma begin_of_scope? (hs : i.scope? request.family = some s)
    (hclient : request.client.validateFor request.family = .ok ()) (now : ℕ) :
    i.begin now request =
      ((round now (i.claim request) maxRetries s).1,
        i.setScope (round now (i.claim request) maxRetries s).2 request.family) := by
  simp only [begin, hs, hclient]

section Fresh

variable (hs : i.scope? request.family = some s) (h : s.Sound)
  (hclient : request.client.validateFor request.family = .ok ())
  (hfresh : (i.claim request).Fresh s)
  (hon : i.probeTimeout ≠ 0)

include hs h hclient hfresh hon

/-- As long as all addresses have turned out to be in use, the next candidate is probed. -/
lemma alone_probing (times : ℕ → ℕ) (hn : n < (candidates request.wanted s).length)
    (hbusy : ∀ k < n, busy k = true) :
    ∃ p, p.claim = i.claim request ∧ (candidates request.wanted s)[n] = p.ip ∧
      rest (p.ip :: p.excluded) p.attempts s = (candidates request.wanted s).drop (n + 1) ∧
      alone times busy request i n =
        ((candidates request.wanted s).take n, .probing p,
          i.setScope (s.hold p.ip) request.family) := by
  -- by induction on the number of probes: the candidates not yet tried are those that may still be
  induction n with
  | zero =>
    obtain ⟨ip, more, hcandidates⟩ := List.exists_cons_of_length_pos hn
    obtain ⟨attempts, hrest, hround⟩ :=
      round_probed hfresh h hon hcandidates (times 0) maxRetries
    refine ⟨⟨i.claim request, ip, [], attempts, maxRetries⟩, rfl, ?_, ?_, ?_⟩
    · simp [hcandidates]
    · simp [hcandidates, hrest]
    · rw [alone, begin_of_scope? hs hclient, hround, List.take_zero]
  | succ n ih =>
    obtain ⟨p, hclaim, hip, hrest, halone⟩ := ih (by omega) fun k hk => hbusy k (by omega)
    rw [List.drop_eq_getElem_cons hn] at hrest
    obtain ⟨p', hclaim', hip', hrest', hanswer⟩ :=
      answer_busy_of_rest h hfresh.stateful hrest (times (n + 1))
    refine ⟨p', hclaim'.trans hclaim, hip'.symm, by rw [hip', hrest'], ?_⟩
    have hfamily : p.claim.request.family = request.family := by rw [hclaim]; rfl
    rw [alone, halone]
    simp only [hbusy n (by omega), resume_setScope hfamily, hanswer, hip']
    rw [← hip, List.take_concat_get']

/-- The first address that is not in use is leased. -/
lemma alone_leased (times : ℕ → ℕ) (hn : n < (candidates request.wanted s).length)
    (hbusy : ∀ k < n, busy k = true) (hfree : busy n = false) :
    let l := leaseFor (times (n + 1)) (i.claim request) (candidates request.wanted s)[n] s
    alone times busy request i (n + 1) = ((candidates request.wanted s).take (n + 1),
      .done (.ok l), i.setScope (s.change (.commit l)) request.family) := by
  obtain ⟨p, hclaim, hip, -, halone⟩ := alone_probing hs h hclient hfresh hon times hn hbusy
  have hfamily : p.claim.request.family = request.family := by rw [hclaim]; rfl
  have hmem : p.ip ∈ s.free := mem_free_of_mem_candidates h (hip ▸ List.getElem_mem hn)
  have hanswer := answer_free (hclaim ▸ hfresh) h hmem (times (n + 1))
  rw [alone, halone]
  simp only [hfree, resume_setScope hfamily, hanswer, hclaim, hip]
  rw [← hip, List.take_concat_get']

/-- When all candidates are in use, none is left. -/
lemma alone_exhausted (times : ℕ → ℕ)
    (hbusy : ∀ k < (candidates request.wanted s).length, busy k = true) :
    alone times busy request i (candidates request.wanted s).length =
      (candidates request.wanted s, .done (.error .poolExhausted), i) := by
  cases hlength : (candidates request.wanted s).length with
  | zero =>
    have hcandidates : candidates request.wanted s = [] := List.length_eq_zero_iff.1 hlength
    have hround := round_of_candidates_nil hfresh h hcandidates (times 0) maxRetries
    rw [alone, begin_of_scope? hs hclient, hround, hcandidates]
    simp only [setScope_of_scope? hs]
  | succ n =>
    have hn : n < (candidates request.wanted s).length := by omega
    obtain ⟨p, hclaim, hip, hrest, halone⟩ :=
      alone_probing hs h hclient hfresh hon times hn fun k hk => hbusy k (by omega)
    have hfamily : p.claim.request.family = request.family := by rw [hclaim]; rfl
    rw [List.drop_eq_nil_of_le (by omega)] at hrest
    have hanswer := answer_busy_of_rest_nil hfresh.stateful hrest (times (n + 1))
    rw [alone, halone]
    simp only [hbusy n hn, resume_setScope hfamily, hanswer, setScope_of_scope? hs]
    rw [← hip, List.take_concat_get', List.take_of_length_le (by omega)]

end Fresh

/-- What an allocation comes to when as many probes as may be needed have been answered, with what
it has done to the interface. -/
def Comes (times : ℕ → ℕ) (busy : ℕ → Bool) (request : Request) (i : Interface)
    (r : List IpAddr × Except LeaseError Lease) : Prop :=
  ∃ now i', (∀ n, maxAttempts + 1 ≤ n → alone times busy request i n = (r.1, .done r.2, i')) ∧
    Outcome now (i.claim request) i (.done r.2, i')

/-- An allocation that is over in its first step. -/
lemma Comes.of_begin (hi : i.Sound) (hbegin : i.begin (times 0) request = (.done result, i')) :
    Comes times busy request i ([], result) := by
  have halone : alone times busy request i 0 = ([], .done result, i') := by rw [alone, hbegin]
  refine ⟨times 0, i', fun n _ => alone_of_le halone (Nat.zero_le n), ?_⟩
  rw [← hbegin]
  exact begin_outcome hi (times 0) request

/-- An allocation whose only round is over in its first step. -/
lemma Comes.of_round {s' : Scope} (hi : i.Sound) (hs : i.scope? request.family = some s)
    (hclient : request.client.validateFor request.family = .ok ())
    (hround : round (times 0) (i.claim request) maxRetries s = (.done result, s')) :
    Comes times busy request i ([], result) := by
  have hbegin : i.begin (times 0) request = (.done result, i.setScope s' request.family) := by
    rw [begin_of_scope? hs hclient, hround]
  exact .of_begin hi hbegin

section Newcomer

variable (hi : i.Sound) (hs : i.scope? request.family = some s)
  (hclient : request.client.validateFor request.family = .ok ())

include hi hs hclient

/-- With probing on, a newcomer gets the first candidate that is not in use. -/
lemma Comes.of_probed (hfresh : (i.claim request).Fresh s) (hon : i.probeTimeout ≠ 0) :
    Comes times busy request i (probedInOrder times busy (i.claim request) s) := by
  have h : s.Sound := hi.scope hs
  have hlength := length_candidates_le request.wanted s
  have hwanted : (i.claim request).request.wanted = request.wanted := rfl
  simp only [probedInOrder, hwanted]
  cases hfind : (candidates request.wanted s).zipIdx.find? fun (_, n) => !busy n with
  | none =>
    have hbusy : ∀ k < (candidates request.wanted s).length, busy k = true := by
      intro k hk
      have hmem := List.find?_eq_none.1 hfind ((candidates request.wanted s)[k], k)
        (List.mk_mem_zipIdx_iff_getElem?.2 (List.getElem?_eq_getElem hk))
      simpa using hmem
    have halone := alone_exhausted hs h hclient hfresh hon times hbusy
    exact ⟨0, i, fun n hn => alone_of_le halone (hlength.trans hn), .refused _⟩
  | some found =>
    obtain ⟨ip, n⟩ := found
    obtain ⟨hfree, m, hm, heq, hbefore⟩ := List.find?_eq_some_iff_getElem.1 hfind
    rw [List.length_zipIdx] at hm
    rw [List.getElem_zipIdx, Prod.mk.injEq, Nat.zero_add] at heq
    obtain ⟨rfl, rfl⟩ := heq
    have hfree : busy m = false := by simpa using hfree
    have hbusy : ∀ k < m, busy k = true := by
      intro k hk
      simpa using hbefore k hk
    have halone := alone_leased hs h hclient hfresh hon times hm hbusy hfree
    have hip := mem_free_of_mem_candidates h (List.getElem_mem hm)
    obtain ⟨hrange, -, hunreserved⟩ := (Scope.mem_free_iff h).1 hip
    have hlate : isLate (times (m + 1)) (i.claim request) = false := by
      simp [isLate, hfresh.deadline]
    have hfits : (i.claim request).Fits s.pool :=
      ⟨hi.family hs ▸ hclient, validate_hostname_claim i request⟩
    refine ⟨times (m + 1), _, fun n hn => alone_of_le halone (by omega), ?_⟩
    exact .step hs hfits (.leased ⟨hfresh.stateful, hrange⟩ hunreserved hlate
      (admits_leaseFor hfresh h hip _))

end Newcomer

/-- An undisturbed allocation comes to what is allotted to it. -/
theorem comes_allotted (hi : i.Sound) (hs : i.scope? request.family = some s)
    (hclient : request.client.validateFor request.family = .ok ())
    (hdeadline : request.deadline = none)
    (times : ℕ → ℕ) (busy : ℕ → Bool) :
    Comes times busy request i (allotted times busy request i s) := by
  have h : s.Sound := hi.scope hs
  simp only [allotted]
  cases hheld : s.table.leases.find? (·.hwAddr = request.client) with
  | some held =>
    rw [← h.table.lookupByHw_eq_find?] at hheld
    have hround : (round (times 0) (i.claim request) maxRetries s).1 = _ :=
      round_of_held h hheld (times 0) maxRetries
    exact .of_round hi hs hclient (Prod.fst_eq_iff.1 hround)
  | none =>
    rw [← h.table.lookupByHw_eq_find?] at hheld
    obtain ⟨again, hround⟩ := round_eq_openRound (times 0) (i.claim request) maxRetries s
    cases hstateful : s.pool.stateful with
    | false =>
      rw [openRound_off hheld hstateful] at hround
      exact .of_round hi hs hclient hround
    | true =>
      cases hrival : s.rival (i.claim request).hostname request.client with
      | some rival =>
        rw [openRound_rival h hheld hstateful hrival] at hround
        simp only [if_true]
        exact .of_round hi hs hclient hround
      | none =>
        have hfresh : (i.claim request).Fresh s := ⟨hstateful, hheld, hrival, hdeadline⟩
        simp only [if_true]
        by_cases hoff : i.probeTimeout = 0
        · rw [if_neg (not_not.2 hoff)]
          cases hcandidates : candidates request.wanted s with
          | nil => exact .of_round hi hs hclient (round_of_candidates_nil hfresh h hcandidates _ _)
          | cons ip more =>
            exact .of_round hi hs hclient (round_unprobed hfresh h hoff hcandidates _ _)
        · rw [if_pos hoff]
          exact .of_probed hi hs hclient hfresh hoff

end Interface

end DhcpLeasing
