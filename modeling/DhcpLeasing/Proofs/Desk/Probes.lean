import DhcpLeasing.Proofs.Desk.Leases
import DhcpLeasing.Proofs.Fleet

/-!
# The probes of an allocation

Which addresses a call probes, how many of them, and what its lease has to do with its probes,
whatever else goes on on the interface while it waits.
-/

namespace DhcpLeasing.Desk

open Allocation

variable {c : InterfaceConfig} {name : String} {probeTimeout : ℕ} {request : Request}
  {start left i : Interface} {probes : List (IpAddr × Bool)} {now : ℕ} {waiting : List Pending}
  {p : Pending}

/-- What holds of an address when a probe of it begins on the interface `i`: it is one that the
configuration gives to clients, it is not leased, and it is reserved for this probe only. -/
structure Probed (c : InterfaceConfig) (waiting : List Pending) (i : Interface) (request : Request)
    (ip : IpAddr) : Prop where
  family_eq : ip.family = request.family
  inDynamicRange : ∃ pool, c.pool? request.family = some pool ∧ pool.inDynamicRange ip
  /-- The same in the words of the IPv4 range. -/
  inRange : ∀ {a}, ip = .v4 a → ∃ v4, c.enabledV4 = some v4 ∧ v4.inRange a ∧
    a ≠ v4.gateway ∧ a ≠ v4.network ∧ a ≠ v4.broadcast
  unleased : i.leaseByIp ip = none
  reserved : (i.reserved request.family).count ip = 1
  others : ∀ q ∈ waiting, q.ip ≠ ip

/-- An address that an allocation waits for is reserved once. -/
lemma Sound.count_reserved (h : Sound ⟨i, p :: waiting⟩) :
    (i.reserved p.family).count p.ip = 1 := by
  have hdistinct : (addresses p.family (p :: waiting)).Nodup :=
    h.distinct.sublist (List.filter_sublist.map _)
  have hmem : p.ip ∈ addresses p.family (p :: waiting) :=
    mem_addresses_iff.2 ⟨p, List.mem_cons_self, rfl, rfl⟩
  rw [(h.reserved p.family).count_eq]
  exact List.count_eq_one_of_mem hdistinct hmem

/-- An address is not leased when a probe of it begins. -/
lemma Course.unleased (hcourse : Course request start probes now left (.probing p, i))
    (h : Sound ⟨start, waiting⟩) : i.leaseByIp p.ip = none := by
  obtain ⟨own, hcall⟩ := hcourse.call
  obtain ⟨now', claim, base, -, hbase, -, ho⟩ := (hcall.explained h).outcome
  obtain ⟨hwait, -, hleases⟩ := hbase.probing ho
  obtain ⟨-, -, s, hs, -, hoffers, hunleased, -⟩ := ho.probing
  rw [← hbase.interface.family hs, ← hoffers.family_eq] at hs
  rw [Interface.leaseByIp_of_unreserved hleases, Interface.leaseByIp_of_scope? hs, hunleased]

/-- What holds of an address when a probe of it begins. -/
lemma Course.probed (hcourse : Course request start probes now left (.probing p, i))
    (hd : Reachable (.ofConfig name c probeTimeout) ⟨start, waiting⟩) :
    Probed c waiting i request p.ip := by
  have hdesk : Reachable (.ofConfig name c probeTimeout) ⟨i, p :: waiting⟩ := hcourse.reachable hd
  obtain ⟨hsound, hconfig⟩ := hdesk.sound
  have hfamily : p.family = request.family := by
    rw [Pending.family, (hcourse.accounts hd.sound.1).claim_eq]
    rfl
  have hhosts : i.Hosts p := hsound.hosts List.mem_cons_self
  have hip : p.ip.family = request.family := (hhosts.family_eq hsound.interface).trans hfamily
  obtain ⟨s, hs, -, -, hrange⟩ := hhosts
  have hpool : c.pool? request.family = some s.pool :=
    Interface.pool?_of_scope? hconfig (hfamily ▸ hs)
  refine ⟨hip, ⟨s.pool, hpool, hrange⟩, ?_, hcourse.unleased hd.sound.1,
    hfamily ▸ hsound.count_reserved, ?_⟩
  · intro a ha
    rw [ha] at hip hrange
    rw [← hip] at hpool
    obtain ⟨v4, hv4, heq⟩ := Option.map_eq_some_iff.1 hpool
    rw [← heq, AddressPool.inDynamicRange_ofV4] at hrange
    exact ⟨v4, hv4, hrange⟩
  · intro q hq heq
    exact (List.nodup_cons.1 hsound.distinct).1 (List.mem_map.2 ⟨q, hq, heq⟩)

/-- **Probe discipline.** On every interface that can be reached, whatever happens while a call
waits for its probes: in a round the call probes no address twice and at most nine, the wanted one
and eight candidates; in all at most eighteen. Each address is one of the window, neither leased nor
reserved for anybody else when its probe begins, and no round of a client that holds a lease begins
with a probe. Unless probing is off, a lease that is not the client's own is for the address that
has been probed last and been found free. In a session, with any prober, these are the probes that
the session makes, and the replies that it gives: it has them on record, with the answers that the
prober gives when it knows what was probed before. -/
theorem probes_disciplined
    (hd : Reachable (.ofConfig name c probeTimeout) ⟨start, waiting⟩) :
    (∀ request probes now left p i, Course request start probes now left (.probing p, i) →
      (p.ip :: inRound probes).Nodup ∧ (p.ip :: inRound probes).length ≤ 9 ∧
        (unwanted request (p.ip :: inRound probes)).length ≤ 8 ∧ probes.length + 1 ≤ 18 ∧
        Probed c waiting i request p.ip ∧
        (inRound probes = [] → left.leaseByHw request.family request.client = none)) ∧
      (∀ request probes now left l i, Course request start probes now left (.done (.ok l), i) →
        Kept request now left l ∨
          Committed request now left i l ∧
            (start.probeTimeout ≠ 0 → ∃ earlier, probes = (l.ip, false) :: earlier)) ∧
      ∀ (s : Session Fleet FleetCommand Reply) place outer r,
        s.world.interfaces[place]? = some start →
        (∀ depth probes key p s',
          Fleet.Allocates place depth outer r s probes (.waiting key p) s' →
          (∃ left i', s'.world.interfaces[place]? = some i' ∧
            Course (r.at s.world.clock) start probes s'.world.clock left (.probing p, i')) ∧
          ∀ prober, s.prober = some prober →
            s.Records prober start.probeTimeout probes none s') ∧
        ∀ depth reply s',
          Session.carryOut Fleet.world depth outer (.on place (.allocate r)) s = (reply, s') →
          ∃ probes cut, Session.Completes Fleet.world depth outer (.on place (.allocate r)) s probes
              cut (reply, s') ∧
            Fleet.Ended (r.at s.world.clock) place start outer probes s' reply ∧
            ∀ prober, s.prober = some prober → 0 < depth →
              s.Records prober start.probeTimeout probes cut s' := by
  have hsound : Sound ⟨start, waiting⟩ := hd.sound.1
  refine ⟨?_, ?_, ?_⟩
  · intro request probes now left p i hcourse
    have haccounts := hcourse.accounts hsound
    have hattempts := haccounts.attempts_le
    have hcandidates := haccounts.candidates_le
    have hprobes := haccounts.probes_le
    rw [haccounts.excluded_eq] at hattempts hcandidates
    simp only [maxAttempts, maxProbes, maxRetries] at hattempts hcandidates hprobes
    refine ⟨haccounts.excluded_eq ▸ haccounts.distinct, ?_, by omega, by omega,
      hcourse.probed hd, hcourse.newcomer hsound⟩
    rw [List.length_cons]
    omega
  · intro request probes now left l i hcourse
    cases hcourse.won hsound with
    | kept h => exact .inl h
    | committed h _ probed => exact .inr ⟨h, probed⟩
  · intro s place outer r hi
    refine ⟨?_, ?_⟩
    · intro depth probes key p s' hallocates
      exact ⟨(hallocates.course hi).2, fun _ hprober => hallocates.recorded hi hsound hprober⟩
    · intro depth reply s' hcarry
      obtain ⟨probes, cut, hcompletes, hended⟩ := Fleet.carryOut_ended hi hsound hcarry
      refine ⟨probes, cut, hcompletes, hended, ?_⟩
      intro prober hprober hdepth
      exact Fleet.recorded_of_completes hi hsound hprober hdepth hcompletes

/-- A client of the default configuration loses the first address to an operator while it is probed,
and gets the next one, which is probed in a second round. In a session both probes go on record. -/
theorem exists_probes_disciplined : ∃ request start now left p i,
    Course request start [(.v4 (.ofBytes 192 168 1 100), false)] now left (.probing p, i) ∧
      left.leases.length = 1 ∧ p.ip = .v4 (.ofBytes 192 168 1 101) ∧
      Probed ⟨some .default, some .default⟩ [] i request p.ip ∧
      left.leaseByHw request.family request.client = none ∧
      ∃ probes now' left' l i', Course request start probes now' left' (.done (.ok l), i') ∧
        left'.leaseByHw request.family request.client = none ∧
        (∃ earlier, probes = (l.ip, false) :: earlier) ∧
        ∃ (s : Session Fleet FleetCommand Reply) (prober : Prober FleetCommand) (r : ClientRequest)
          (reply : Except (Fin 0) Reply) (s' : Session Fleet FleetCommand Reply)
          (probes : List (IpAddr × Bool)) (cut : Option IpAddr),
          r.at s.world.clock = request ∧
            Session.carryOut Fleet.world 1 [] (.on 0 (.allocate r)) s = (reply, s') ∧
            Fleet.Ended request 0 start [] probes s' reply ∧
            s.Records prober 1000 probes cut s' ∧
            s'.log.map (fun record => (record.ip, record.inUse)) =
              [(.v4 (.ofBytes 192 168 1 100), some false),
                (.v4 (.ofBytes 192 168 1 101), some false)] := by
  let start : Interface := .ofConfig "eth0" ⟨some .default, some .default⟩ 1000
  let r : ClientRequest := ⟨⟨[2, 0, 0, 0, 0, 1]⟩, .v4, none, some "Lamp", none⟩
  let request : Request := r.at 0
  let other : Lease := .static (.v4 (.ofBytes 192 168 1 100)) ⟨[2, 0, 0, 0, 0, 2]⟩ "printer"
  let p₁ : Pending := ⟨start.claim request, .v4 (.ofBytes 192 168 1 100), [], 7, 1⟩
  let p₂ : Pending := ⟨start.claim request, .v4 (.ofBytes 192 168 1 101), [], 7, 0⟩
  let i₁ := (start.begin 0 request).2
  let left₁ := (i₁.submit 1 (.addLease other)).2
  let i₂ := (left₁.resume 2 p₁ false).2
  let l : Lease := .dynamic (.ofMillis 3) p₂.ip request.client "lamp" (.ofSeconds 86400)
  have hfirst : start.begin 0 request = (.probing p₁, i₁) := Prod.fst_eq_iff.1 (by decide +kernel)
  have hsecond : left₁.resume 2 p₁ false = (.probing p₂, i₂) :=
    Prod.fst_eq_iff.1 (by decide +kernel)
  have hdone : i₂.resume 3 p₂ false = (.done (.ok l), (i₂.resume 3 p₂ false).2) :=
    Prod.fst_eq_iff.1 (by decide +kernel)
  have hadd : ∀ r, InterfaceCommand.addLease other ≠ .allocate r := by simp
  have hmeanwhile : Meanwhile i₁ left₁ := .single (.command 1 hadd i₁ [] trivial)
  have hcourse₁ : Course request start [] 0 start (.probing p₁, i₁) := hfirst ▸ .begin 0
  have hcourse₂ : Course request start [(p₁.ip, false)] 2 left₁ (.probing p₂, i₂) :=
    hsecond ▸ hcourse₁.resume hmeanwhile 2 false
  have hcourse₃ : Course request start [(p₂.ip, false), (p₁.ip, false)] 3 i₂
      (.done (.ok l), (i₂.resume 3 p₂ false).2) := hdone ▸ hcourse₂.resume .refl 3 false
  have hd : Reachable start ⟨start, []⟩ := .refl
  let prober : Prober FleetCommand := fun _ ip =>
    ⟨false, 2, if ip = p₁.ip then [.on 0 (.addLease other)] else []⟩
  let s : Session Fleet FleetCommand Reply := ⟨.ofInterfaces [start] 0 none, some prober, [], []⟩
  have hi : s.world.interfaces[0]? = some start := rfl
  have hr : r.at s.world.clock = request := rfl
  have hlog : (Session.carryOut Fleet.world 1 [] (.on 0 (.allocate r)) s).2.log.map
      (fun record => (record.ip, record.inUse)) =
        [(.v4 (.ofBytes 192 168 1 100), some false),
          (.v4 (.ofBytes 192 168 1 101), some false)] := by decide +kernel
  rcases hcarry : Session.carryOut Fleet.world 1 [] (.on 0 (.allocate r)) s with ⟨reply, s'⟩
  rw [hcarry] at hlog
  obtain ⟨probes, cut, -, hended, hrecords⟩ :=
    ((probes_disciplined hd).2.2 s 0 [] r hi).2 1 reply s' hcarry
  have hrecords := hrecords prober rfl Nat.one_pos
  obtain ⟨-, -, -, -, hprobed, hnewcomer⟩ := (probes_disciplined hd).1 _ _ _ _ _ _ hcourse₂
  have hnone : i₂.leaseByHw request.family request.client = none := by decide +kernel
  rcases (probes_disciplined hd).2.1 _ _ _ _ _ _ hcourse₃ with ⟨held, d, hheld, -⟩ | ⟨-, hlast⟩
  · exact absurd (hnone.symm.trans hheld) (by simp)
  · exact ⟨request, start, 2, left₁, p₂, i₂, hcourse₂, by decide +kernel, rfl, hprobed,
      hnewcomer rfl, _, _, _, _, _, hcourse₃, hnone, hlast (by decide), s, prober, r, reply, s',
      probes, cut, hr, hcarry, hended, hrecords, hlog⟩

end DhcpLeasing.Desk
