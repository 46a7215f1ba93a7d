import DhcpLeasing.Proofs.Desk.Tenure
import DhcpLeasing.Proofs.Interface.Undisturbed

/-!
# Deadlines of allocations

No address is committed at or after the deadline of its request, and no call times out before. A
call that finds an address free too late gives it back.
-/

namespace DhcpLeasing

open Allocation

namespace Desk

variable {request : Request} {start left i : Interface} {now : ℕ} {p : Pending}
  {waiting : List Pending} {family : Family} {ip : IpAddr} {s : Scope}

/-- What becomes of a call that finds an address free too late: it times out, the leases stay as
they are, and nobody has the address reserved, so that it can be reserved again unless it has been
leased in the meantime. -/
structure TimedOut (left : Interface) (family : Family) (ip : IpAddr) (r : Progress × Interface) :
    Prop where
  result : r.1 = .done (.error .timeout)
  leases : r.2.unreserved = left.unreserved
  unreserved : ip ∉ r.2.reserved family
  reservable : ∃ s, r.2.scope? family = some s ∧
    ((s.table.reserve ip).isSome ↔ left.leaseByIp ip = none)

/-- An address that is not reserved can be reserved, unless it is leased. -/
lemma isSome_reserve_iff {t : LeaseTable} (h : ip ∉ t.reserved) :
    (t.reserve ip).isSome ↔ t.lookup ip = none := by
  simp [Option.isSome_iff_exists, LeaseTable.reserve_eq_some_iff, h]

lemma TimedOut.of_scope? (hs : i.scope? family = some s) (hfamily : ip.family = family)
    (hleases : i.unreserved = left.unreserved) (hip : ip ∉ s.table.reserved) :
    TimedOut left family ip (.done (.error .timeout), i) := by
  refine ⟨rfl, hleases, by rwa [Interface.reserved_of_scope? hs], s, hs, ?_⟩
  rw [isSome_reserve_iff hip, ← Interface.leaseByIp_of_unreserved hleases,
    Interface.leaseByIp_of_scope? (hfamily ▸ hs)]

lemma conclude_of_late {claim : Claim} (hlate : isLate now claim)
    (again : Conflict → Scope → Progress × Scope) (ip : IpAddr) (s : Scope) :
    conclude now claim again ip s = (.done (.error .timeout), giveUp ip s) := by
  rw [conclude, if_pos hlate]

lemma isLate_of_le {claim : Claim} {deadline : ℕ}
    (hdeadline : claim.request.deadline = some deadline) (hle : deadline ≤ now) :
    isLate now claim := by
  simpa [isLate, hdeadline] using hle

/-- The answer that an address is free comes too late. -/
lemma Sound.timedOut (h : Sound ⟨left, p :: waiting⟩) (hlate : isLate now p.claim) :
    TimedOut left p.family p.ip (left.resume now p false) := by
  have hhosts : left.Hosts p := h.hosts List.mem_cons_self
  have hip : p.ip.family = p.family := hhosts.family_eq h.interface
  have hunreserved : p.ip ∉ (left.abandon p).reserved p.family :=
    @Sound.notMem_reserved_abandon left p [] waiting h
  obtain ⟨s, hs, -⟩ := hhosts
  have hleft := Interface.scope?_abandon hs
  have hresume : left.resume now p false = (.done (.error .timeout), left.abandon p) := by
    rw [Interface.resume_of_scope? hs]
    simp only [answer, Bool.false_eq_true, if_false, conclude_of_late hlate,
      Interface.setScope_of_scope? hleft]
  rw [Interface.reserved_of_scope? hleft] at hunreserved
  exact hresume ▸ .of_scope? hleft hip (left.unreserved_abandon p) hunreserved

/-- Whether the first address that an allocation tries is the given one. Its client has no lease
yet, and its hostname is nobody else's. -/
structure Tries (i : Interface) (request : Request) (ip : IpAddr) : Prop where
  client : request.client.validateFor request.family = .ok ()
  newcomer : i.leaseByHw request.family request.client = none
  first : ∃ s attempts s', i.scope? request.family = some s ∧ s.pool.stateful ∧
    s.rival (i.claim request).hostname request.client = none ∧
    reserveFirst (i.claim request) s = some (ip, attempts, s')

/-- With probing off a request that comes in when its deadline has passed finds the address free too
late. -/
lemma Tries.timedOut (h : Tries i request ip) (hi : i.Sound) (hoff : i.probeTimeout = 0)
    (hlate : isLate now (i.claim request)) :
    TimedOut i request.family ip (i.begin now request) := by
  obtain ⟨s, attempts, s', hs, hstateful, hrival, hfirst⟩ := h.first
  have hscope : s.Sound := hi.scope hs
  have hclient : s.table.lookupByHw request.client = none := by
    rw [← Interface.leaseByHw_of_scope? hs, h.newcomer]
  have hoff : (i.claim request).probeTimeout = 0 := hoff
  obtain ⟨hoffered, ⟨-, hunreserved⟩, rfl⟩ := reserveFirst_eq_some hscope.pool hstateful hfirst
  have hfamily : ip.family = request.family := hoffered.family_eq.trans (hi.family hs)
  obtain ⟨again, hround⟩ := round_eq_openRound now (i.claim request) maxRetries s
  rw [openRound_of_reserved hscope hclient hstateful hrival hfirst, if_pos hoff,
    conclude_of_late hlate, giveUp_hold] at hround
  have hbegin : i.begin now request = (.done (.error .timeout), i) := by
    rw [Interface.begin_of_scope? hs h.client, hround, Interface.setScope_of_scope? hs]
  exact hbegin ▸ .of_scope? hs hfamily rfl hunreserved

end Desk

namespace Fleet

/-- What becomes of an allocation in a session that finds an address free too late, when the session
has got to `s`: the reply is that it has timed out, and it comes at once. -/
def TimesOut {outer : List (Option ℕ)} (place : ℕ) (family : Family) (ip : IpAddr)
    (s : Session Fleet FleetCommand Reply)
    (r : Except (Fin outer.length) Reply × Session Fleet FleetCommand Reply) : Prop :=
  ∃ left i, s.world.interfaces[place]? = some left ∧ r.1 = .ok (.lease (.error .timeout)) ∧
    r.2.world.interfaces[place]? = some i ∧ r.2.world.clock = s.world.clock ∧
    Desk.TimedOut left family ip (.done (.error .timeout), i)

variable {s s₁ s₂ : Session Fleet FleetCommand Reply} {place depth : ℕ} {outer : List (Option ℕ)}
  {r : ClientRequest} {probes : List (IpAddr × Bool)} {key : ℕ} {p : Pending} {i : Interface}
  {others : List Pending}

/-- The prober answers too late that an address is free. -/
lemma Allocates.timesOut (h : Allocates place depth outer r s probes (.waiting key p) s₁)
    (hi : s.world.interfaces[place]? = some i) (hsound : Desk.Sound ⟨i, others⟩)
    (hprobe : Session.probe world outer (Session.carryOut world depth) p s₁ = (.ok false, s₂))
    {deadline : ℕ} (hdeadline : (r.at s.world.clock).deadline = some deadline)
    (hle : deadline ≤ s₂.world.clock) :
    TimesOut place r.family p.ip s₂
      (Session.carryOut world (depth + 1) outer (.on place (.allocate r)) s) := by
  obtain ⟨rfl, _, _, left', hcourse, hmeanwhile, hleft'⟩ := h.probed hi hprobe
  obtain ⟨hwait, hrequest⟩ := hcourse.wait hsound hmeanwhile
  have hlate : isLate s₂.world.clock p.claim := Desk.isLate_of_le (hrequest ▸ hdeadline) hle
  have htimedOut := Desk.Sound.timedOut hwait hlate
  have hfamily : p.family = r.family := by
    rw [Pending.family, hrequest]
    rfl
  rcases hresume : left'.resume s₂.world.clock p false with ⟨progress, i'⟩
  rw [hresume, hfamily] at htimedOut
  obtain rfl : progress = .done (.error .timeout) := htimedOut.result
  obtain ⟨n, -, hcarry⟩ := h.carryOut_eq hi hsound
  have hreply : Session.carryOut world (depth + 1) outer (.on key (.allocate r)) s =
      (.ok (.lease (.error .timeout)), s₂.setWorld (s₂.world.replace key i')) := by
    rw [hcarry, Session.follow, hprobe]
    simp only [resume_of_some hleft', hresume, Progress.activity, Activity.under]
    cases n <;> rfl
  rw [hreply]
  exact ⟨left', i', hleft', rfl, interface_replace hleft' i', rfl, htimedOut⟩

/-- With probing off an address is found free at once, which is too late if the client does not wait
at all. -/
lemma timesOut_of_off (hi : s.world.interfaces[place]? = some i) (hsound : i.Sound)
    (hoff : i.probeTimeout = 0) {ip : IpAddr} (htries : Desk.Tries i (r.at s.world.clock) ip)
    {deadline : ℕ} (hdeadline : (r.at s.world.clock).deadline = some deadline)
    (hle : deadline ≤ s.world.clock) (depth : ℕ) :
    TimesOut place r.family ip s
      (Session.carryOut world depth outer (.on place (.allocate r)) s) := by
  have hlate : isLate s.world.clock (i.claim (r.at s.world.clock)) :=
    Desk.isLate_of_le hdeadline hle
  have htimedOut := htries.timedOut hsound hoff hlate
  rcases hbegin : i.begin s.world.clock (r.at s.world.clock) with ⟨progress, i'⟩
  rw [hbegin] at htimedOut
  obtain rfl : progress = .done (.error .timeout) := htimedOut.result
  rw [Desk.carryOut_of_begin hi hbegin]
  exact ⟨i, i', hi, rfl, interface_replace hi i', rfl, htimedOut⟩

end Fleet

namespace Desk

variable {name : String} {c : InterfaceConfig} {probeTimeout : ℕ} {start : Interface}
  {waiting : List Pending}

/-- **Nothing is committed late.** On every interface that can be reached, whatever happens while a
call waits for its probes and however long they take: what it commits it commits before the deadline
of its request, and it times out only when the deadline has passed. If it finds an address free when
the deadline has passed, it times out, and has given up the reservation. In a session, with any
prober, replies are those of such calls, as of the time when they come. -/
theorem nothing_committed_late
    (hd : Reachable (.ofConfig name c probeTimeout) ⟨start, waiting⟩) :
    (∀ request probes now left i result,
      Course request start probes now left (.done result, i) →
      (∀ l, result = .ok l → Kept request now left l ∨
        Committed request now left i l ∧
          ∀ deadline, request.deadline = some deadline → now < deadline) ∧
      (result = .error .timeout →
        ∃ deadline, request.deadline = some deadline ∧ deadline ≤ now)) ∧
      (∀ request probes now left p i left' now' deadline,
        Course request start probes now left (.probing p, i) → Meanwhile i left' →
        request.deadline = some deadline → deadline ≤ now' →
        TimedOut left' request.family p.ip (left'.resume now' p false)) ∧
      (∀ request ip now deadline, start.probeTimeout = 0 → Tries start request ip →
        request.deadline = some deadline → deadline ≤ now →
        TimedOut start request.family ip (start.begin now request)) ∧
      ∀ (s : Session Fleet FleetCommand Reply) place outer r,
        s.world.interfaces[place]? = some start →
        (∀ depth reply s', Session.carryOut Fleet.world depth outer (.on place (.allocate r)) s =
          (.ok reply, s') → ∃ probes left result i, reply = .lease result ∧
            s'.world.interfaces[place]? = some i ∧
            Course (r.at s.world.clock) start probes s'.world.clock left (.done result, i)) ∧
        (∀ depth probes key p s₁ s₂ deadline,
          Fleet.Allocates place depth outer r s probes (.waiting key p) s₁ →
          Session.probe Fleet.world outer (Session.carryOut Fleet.world depth) p s₁ =
            (.ok false, s₂) →
          (r.at s.world.clock).deadline = some deadline → deadline ≤ s₂.world.clock →
          Fleet.TimesOut place r.family p.ip s₂
            (Session.carryOut Fleet.world (depth + 1) outer (.on place (.allocate r)) s)) ∧
        ∀ depth ip deadline, start.probeTimeout = 0 → Tries start (r.at s.world.clock) ip →
          (r.at s.world.clock).deadline = some deadline → deadline ≤ s.world.clock →
          Fleet.TimesOut place r.family ip s
            (Session.carryOut Fleet.world depth outer (.on place (.allocate r)) s) := by
  have hsound : Sound ⟨start, waiting⟩ := hd.sound.1
  refine ⟨?_, ?_, ?_, ?_⟩
  · intro request probes now left i result hcourse
    refine ⟨?_, ?_⟩
    · rintro l rfl
      cases hcourse.won hsound with
      | kept h => exact .inl h
      | committed h onTime _ => exact .inr ⟨h, onTime⟩
    · rintro rfl
      exact hcourse.deadline_le hsound
  · intro request probes now left p i left' now' deadline hcourse hmeanwhile hdeadline hle
    obtain ⟨hwait, rfl⟩ := hcourse.wait hsound hmeanwhile
    exact Sound.timedOut hwait (isLate_of_le hdeadline hle)
  · intro request ip now deadline hoff htries hdeadline hle
    exact htries.timedOut hsound.interface hoff (isLate_of_le hdeadline hle)
  · intro s place outer r hi
    refine ⟨?_, ?_, ?_⟩
    · intro depth reply s' hcarry
      obtain ⟨probes, -, -, hended⟩ := Fleet.carryOut_ended hi hsound hcarry
      cases hended with
      | @replied left i result interface course =>
        exact ⟨probes, left, result, i, rfl, interface, course⟩
    · intro depth probes key p s₁ s₂ deadline hallocates hprobe hdeadline hle
      exact hallocates.timesOut hi hsound hprobe hdeadline hle
    · intro depth ip deadline hoff htries hdeadline hle
      exact Fleet.timesOut_of_off hi hsound.interface hoff htries hdeadline hle depth

/-- A client of the default configuration waits for five seconds. An answer a millisecond earlier is
in time, one after five seconds is not. -/
theorem exists_nothing_committed_late : ∃ request start p i l i',
    request.deadline = some 5000 ∧ Course request start [] 0 start (.probing p, i) ∧
      Course request start [(p.ip, false)] 4999 i (.done (.ok l), i') ∧
      Committed request 4999 i i' l ∧ 4999 < 5000 ∧
      TimedOut i request.family p.ip (i.resume 5000 p false) := by
  let start : Interface := .ofConfig "eth0" ⟨some .default, some .default⟩ 9000
  let request : Request := ⟨⟨[2, 0, 0, 0, 0, 1]⟩, .v4, none, some "Lamp", some 5000⟩
  let p : Pending := ⟨start.claim request, .v4 (.ofBytes 192 168 1 100), [], 7, 1⟩
  let i := (start.begin 0 request).2
  let l : Lease := .dynamic (.ofMillis 4999) p.ip request.client "lamp" (.ofSeconds 86400)
  have hprobing : start.begin 0 request = (.probing p, i) := Prod.fst_eq_iff.1 (by decide +kernel)
  have hdone : i.resume 4999 p false = (.done (.ok l), (i.resume 4999 p false).2) :=
    Prod.fst_eq_iff.1 (by decide +kernel)
  have hcourse : Course request start [] 0 start (.probing p, i) := hprobing ▸ .begin 0
  have hleased : Course request start [(p.ip, false)] 4999 i
      (.done (.ok l), (i.resume 4999 p false).2) := hdone ▸ hcourse.resume .refl 4999 false
  have hd : Reachable start ⟨start, []⟩ := .refl
  have hnone : i.leaseByHw request.family request.client = none := by decide +kernel
  have hlate := (nothing_committed_late hd).2.1 _ _ _ _ _ _ i 5000 5000 hcourse .refl rfl le_rfl
  rcases ((nothing_committed_late hd).1 _ _ _ _ _ _ hleased).1 l rfl with
    ⟨held, d, hheld, -⟩ | ⟨hcommitted, honTime⟩
  · exact absurd (hnone.symm.trans hheld) (by simp)
  · exact ⟨request, start, p, i, l, _, rfl, hcourse, hleased, hcommitted, honTime 5000 rfl, hlate⟩

end Desk

end DhcpLeasing
