import DhcpLeasing.Proofs.Fleet
import DhcpLeasing.Proofs.Interface.Undisturbed

/-!
# Allocations whose probers leave the interface alone

A prober may have commands carried out while it is asked. Where these leave the interface alone, an
allocation in a session keeps in step with an undisturbed one, from probe to probe and up to its
end: `Fleet.run_keepsStep`. So it comes to what is allotted to it: `Desk.allocation_eq_allotted`.
-/

namespace DhcpLeasing

open Allocation

variable {i i' : Interface} {request : Request} {s : Session Fleet FleetCommand Reply}
  {place depth : ℕ} {times : ℕ → ℕ} {busy : ℕ → Bool}

/-! ## Probes and answers -/

namespace Interface

/-- The probes of an undisturbed allocation with the answers to them, the last one first. -/
def answered (busy : ℕ → Bool) (probed : List IpAddr) : List (IpAddr × Bool) :=
  (probed.mapIdx fun n ip => (ip, busy n)).reverse

lemma answered_concat (busy : ℕ → Bool) (probed : List IpAddr) (ip : IpAddr) :
    answered busy (probed ++ [ip]) = (ip, busy probed.length) :: answered busy probed := by
  simp [answered, List.mapIdx_concat]

lemma answered_congr {busy' : ℕ → Bool} (probed : List IpAddr)
    (h : ∀ k < probed.length, busy k = busy' k) : answered busy probed = answered busy' probed := by
  induction probed using List.reverseRecOn with
  | nil => rfl
  | append_singleton probed ip ih =>
    simp only [List.length_append, List.length_singleton] at h
    rw [answered_concat, answered_concat, ih fun k hk => h k (by omega), h _ (by omega)]

/-- An undisturbed allocation makes one probe after another. -/
lemma length_alone_le (n : ℕ) : (i.alone times busy request n).1.length ≤ n := by
  induction n with
  | zero => exact le_rfl
  | succ n ih =>
    rw [alone]
    split
    · next heq =>
      rw [heq] at ih
      simpa using ih
    · omega

/-- One that waits for a probe has made all others that it could. -/
lemma length_of_alone {n : ℕ} {probed : List IpAddr} {p : Pending}
    (h : i.alone times busy request n = (probed, .probing p, i')) : probed.length = n := by
  induction n generalizing probed p i' with
  | zero =>
    obtain ⟨rfl, -⟩ := Prod.mk.inj h
    rfl
  | succ n ih =>
    rw [alone] at h
    split at h
    · next heq =>
      obtain ⟨rfl, -⟩ := Prod.mk.inj h
      simp [ih heq]
    · next hended =>
      exact absurd h (hended probed p i')

end Interface

namespace Fleet

/-- Whether a prober leaves the interface at a place alone, whatever it has carried out meanwhile.
-/
def Spares (place depth : ℕ) (prober : Option (Prober FleetCommand)) : Prop :=
  ∀ (p : Pending) (s : Session Fleet FleetCommand Reply), s.prober = prober →
    (Session.probe world [] (Session.carryOut world depth) p s).2.world.interfaces[place]? =
      s.world.interfaces[place]?

/-- A prober that brings along no commands leaves all interfaces alone. -/
lemma spares_of_meanwhile {prober : Prober FleetCommand}
    (h : ∀ probed ip, (prober probed ip).meanwhile = []) (place depth : ℕ) :
    Spares place depth (some prober) := by
  intro p s hs
  simp only [Session.probe, hs, h, Session.carryOutAll]
  split <;> rfl

/-- A probe for a client that waits as long as it takes is answered. -/
lemma probe_answered {p : Pending} (hp : p.claim.request.deadline = none) (depth : ℕ)
    (s : Session Fleet FleetCommand Reply) :
    ∃ answer s', Session.probe world [] (Session.carryOut world depth) p s = (.ok answer, s') := by
  rcases hprobe : Session.probe world [] (Session.carryOut world depth) p s with ⟨result, s'⟩
  have horderly := Session.probe_orderly world_timed (Session.carryOut_orderly world_timed) hprobe
  cases result with
  | ok answer => exact ⟨answer, s', rfl⟩
  | error j =>
    -- the deadlines of the probe are that of its own allocation, which has none
    obtain ⟨deadline, hdeadline, -⟩ := horderly.cut rfl
    obtain rfl : j = 0 := Fin.fin_one_eq_zero j
    exact absurd (hp.symm.trans hdeadline) (by simp)

/-! ## Keeping in step -/

/-- A session has got with the command to allocate an address to where an undisturbed allocation is
after `n` probes: it has had the same probes answered alike, waits for the same one or has the same
result, and the interface is the same. The undisturbed allocation has taken its last step at the
time on the clock of the session. -/
structure InStep (place depth : ℕ) (r : ClientRequest) (s : Session Fleet FleetCommand Reply)
    (i : Interface) (times : ℕ → ℕ) (busy : ℕ → Bool) (n : ℕ)
    (s' : Session Fleet FleetCommand Reply) : Prop where
  allocates : Allocates place depth [] r s
    (Interface.answered busy (i.alone times busy (r.at s.world.clock) n).1)
    ((i.alone times busy (r.at s.world.clock) n).2.1.activity.under place) s'
  clock_eq : s'.world.clock = times n
  interface_eq : s'.world.interfaces[place]? =
    some (i.alone times busy (r.at s.world.clock) n).2.2

section InStep

variable {r : ClientRequest} {n : ℕ} {s₁ s₂ : Session Fleet FleetCommand Reply}

/-- Later times and answers do not matter. -/
lemma InStep.congr {times' : ℕ → ℕ} {busy' : ℕ → Bool}
    (h : InStep place depth r s i times busy n s₁) (htimes : ∀ k ≤ n, times k = times' k)
    (hbusy : ∀ k < n, busy k = busy' k) : InStep place depth r s i times' busy' n s₁ := by
  have halone : i.alone times busy (r.at s.world.clock) n =
      i.alone times' busy' (r.at s.world.clock) n := Interface.alone_congr htimes hbusy i
  have hanswered := Interface.answered_congr (i.alone times busy (r.at s.world.clock) n).1
    fun k hk => hbusy k (hk.trans_le (Interface.length_alone_le n))
  refine ⟨?_, ?_, ?_⟩
  · rw [← halone, ← hanswered]
    exact h.allocates
  · rw [h.clock_eq, htimes n le_rfl]
  · rw [← halone]
    exact h.interface_eq

/-- Both begin with the same step. -/
lemma InStep.begin (hi : s.world.interfaces[place]? = some i) (depth : ℕ) (r : ClientRequest)
    (busy : ℕ → Bool) :
    InStep place depth r s i (fun _ => s.world.clock) busy 0
      (s.setWorld (world.submit (.on place (.allocate r)) s.world).2) := by
  rw [submit_allocate_of_some hi]
  refine ⟨?_, rfl, interface_replace hi _⟩
  rw [Allocates, submit_allocate_of_some hi]
  exact .refl

/-- A probe that leaves the interface alone is followed by the same step. -/
lemma InStep.answered {probed : List IpAddr} {p : Pending}
    (h : InStep place depth r s i times busy n s₁)
    (halone : i.alone times busy (r.at s.world.clock) n = (probed, .probing p, i'))
    (hprobe : Session.probe world [] (Session.carryOut world depth) p s₁ = (.ok (busy n), s₂))
    (hinterface : s₂.world.interfaces[place]? = some i')
    (hclock : s₂.world.clock = times (n + 1)) :
    InStep place depth r s i times busy (n + 1)
      (s₂.setWorld (world.resume place p (busy n) s₂.world).2) := by
  have hnext := Interface.alone_succ halone
  rw [← hclock] at hnext
  have hresume := resume_of_some hinterface p (busy n)
  have hallocates := h.allocates
  rw [halone] at hallocates
  refine ⟨?_, ?_, ?_⟩
  · have hlater := Session.Follows.answered hallocates hprobe
    rw [hnext, Interface.answered_concat, Interface.length_of_alone halone]
    rw [hresume] at hlater ⊢
    exact hlater
  · rw [hresume]
    exact hclock
  · rw [hnext, hresume]
    exact interface_replace hinterface _

/-- A session that has made the given probes for a client has kept in step with an undisturbed
allocation all along. -/
structure KeepsStep (place depth : ℕ) (r : ClientRequest) (s : Session Fleet FleetCommand Reply)
    (i : Interface) (times : ℕ → ℕ) (busy : ℕ → Bool) (probes : List (IpAddr × Bool))
    (activity : Activity ℕ Reply) (s' : Session Fleet FleetCommand Reply) : Prop where
  start : times 0 = s.world.clock
  probes_eq :
    Interface.answered busy (i.alone times busy (r.at s.world.clock) probes.length).1 = probes
  activity_eq :
    (i.alone times busy (r.at s.world.clock) probes.length).2.1.activity.under place = activity
  earlier : ∀ k < probes.length, ∃ s₁, InStep place depth r s i times busy k s₁
  now : InStep place depth r s i times busy probes.length s'

variable {probes : List (IpAddr × Bool)} {activity : Activity ℕ Reply}

lemma KeepsStep.congr {times' : ℕ → ℕ} {busy' : ℕ → Bool}
    (h : KeepsStep place depth r s i times busy probes activity s₁)
    (htimes : ∀ k ≤ probes.length, times k = times' k)
    (hbusy : ∀ k < probes.length, busy k = busy' k) :
    KeepsStep place depth r s i times' busy' probes activity s₁ := by
  have halone : i.alone times busy (r.at s.world.clock) probes.length =
      i.alone times' busy' (r.at s.world.clock) probes.length :=
    Interface.alone_congr htimes hbusy i
  refine ⟨?_, ?_, ?_, ?_, h.now.congr htimes hbusy⟩
  · rw [← htimes 0 (Nat.zero_le _), h.start]
  · have hanswered := Interface.answered_congr
      (i.alone times busy (r.at s.world.clock) probes.length).1
      fun k hk => hbusy k (hk.trans_le (Interface.length_alone_le _))
    rw [← halone, ← hanswered, h.probes_eq]
  · rw [← halone, h.activity_eq]
  · intro k hk
    obtain ⟨s₂, hinStep⟩ := h.earlier k hk
    exact ⟨s₂, hinStep.congr (fun m hm => htimes m (hm.trans hk.le)) fun m hm =>
      hbusy m (hm.trans hk)⟩

lemma KeepsStep.begin (hi : s.world.interfaces[place]? = some i) (depth : ℕ) (r : ClientRequest)
    (busy : ℕ → Bool) :
    KeepsStep place depth r s i (fun _ => s.world.clock) busy []
      (world.submit (.on place (.allocate r)) s.world).1
      (s.setWorld (world.submit (.on place (.allocate r)) s.world).2) := by
  refine ⟨rfl, rfl, ?_, fun k hk => absurd hk (Nat.not_lt_zero k), .begin hi depth r busy⟩
  rw [submit_allocate_of_some hi]
  rfl

/-- The undisturbed allocation takes its next step at the time that the probe has left. -/
lemma KeepsStep.answered {key : ℕ} {p : Pending} {answer : Bool}
    (h : KeepsStep place depth r s i times busy probes (.waiting key p) s₁)
    (hprobe : Session.probe world [] (Session.carryOut world depth) p s₁ = (.ok answer, s₂))
    (hspared : s₂.world.interfaces[place]? = s₁.world.interfaces[place]?)
    (hanswer : busy probes.length = answer) (hclock : s₂.world.clock = times (probes.length + 1)) :
    KeepsStep place depth r s i times busy ((p.ip, answer) :: probes)
      (world.resume key p answer s₂.world).1
      (s₂.setWorld (world.resume key p answer s₂.world).2) := by
  subst hanswer
  rcases halone : i.alone times busy (r.at s.world.clock) probes.length with
    ⟨probed, progress, i'⟩
  have hinterface := h.now.interface_eq
  have hactivity := h.activity_eq
  have hprobes := h.probes_eq
  rw [halone] at hinterface hactivity hprobes
  obtain ⟨rfl, rfl⟩ := under_eq_waiting hactivity
  rw [hinterface] at hspared
  have hnext := Interface.alone_succ halone
  rw [← hclock] at hnext
  refine ⟨h.start, ?_, ?_, ?_, h.now.answered halone hprobe hspared hclock⟩
  · rw [List.length_cons, hnext, Interface.answered_concat, hprobes,
      Interface.length_of_alone halone]
  · rw [List.length_cons, hnext, resume_of_some hspared]
  · intro k hk
    rcases Nat.lt_succ_iff_lt_or_eq.1 hk with hk | rfl
    · exact h.earlier k hk
    · exact ⟨s₁, h.now⟩

/-- As long as its probes leave the interface alone, a session that allocates an address keeps in
step with an undisturbed allocation. -/
theorem Allocates.keepsStep (h : Allocates place depth [] r s probes activity s')
    (hspares : Spares place depth s.prober) (hi : s.world.interfaces[place]? = some i) :
    ∃ times busy, KeepsStep place depth r s i times busy probes activity s' := by
  unfold Allocates at h
  induction h with
  | refl => exact ⟨_, _, .begin hi depth r fun _ => false⟩
  | @answered probes key p s₁ s₂ answer hfollows hprobe ih =>
    obtain ⟨times, busy, hkeeps⟩ := ih
    have hspared := hspares p s₁ (Allocates.follows hfollows).prober_eq
    rw [hprobe] at hspared
    let times₁ := Function.update times (probes.length + 1) s₂.world.clock
    let busy₁ := Function.update busy probes.length answer
    have htimes : ∀ k ≤ probes.length, times k = times₁ k := by
      intro k hk
      exact (Function.update_of_ne (by omega) _ _).symm
    have hbusy : ∀ k < probes.length, busy k = busy₁ k := by
      intro k hk
      exact (Function.update_of_ne (by omega) _ _).symm
    have hanswer : busy₁ probes.length = answer := Function.update_self probes.length answer busy
    have hclock : times₁ (probes.length + 1) = s₂.world.clock :=
      Function.update_self (probes.length + 1) s₂.world.clock times
    exact ⟨times₁, busy₁, (hkeeps.congr htimes hbusy).answered hprobe hspared hanswer hclock.symm⟩

/-- An allocation in a session whose prober leaves the interface alone keeps in step with an
undisturbed one until both are over. -/
theorem run_keepsStep {waiting : List Pending} (hsound : Desk.Sound ⟨i, waiting⟩)
    (hspares : Spares place depth s.prober) (hpatience : r.patience = none)
    (hi : s.world.interfaces[place]? = some i) :
    ∃ times busy probes result s',
      Session.run world (depth + 1) (.on place (.allocate r)) s = (.lease result, s') ∧
        KeepsStep place depth r s i times busy probes (.replied (.lease result)) s' := by
  rcases hcarry : Session.carryOut world (depth + 1) [] (.on place (.allocate r)) s with ⟨reply, s'⟩
  obtain ⟨probes, cut, ⟨activity, s₁, hfollows, -, hend⟩, -⟩ := carryOut_ended hi hsound hcarry
  have hallocates : Allocates place depth [] r s probes activity s₁ := hfollows
  cases hend with
  | replied reply =>
    obtain ⟨times, busy, hkeeps⟩ := hallocates.keepsStep hspares hi
    obtain ⟨result, -, rfl⟩ := under_eq_replied hkeeps.activity_eq
    refine ⟨times, busy, probes, result, s', ?_, hkeeps⟩
    rw [Session.run, hcarry]
  | @expired key p _ s₂ _ hprobe =>
    -- the client waits for its probes as long as they take
    obtain ⟨-, left, i', -, hcourse⟩ := hallocates.course hi
    have hdeadline : p.claim.request.deadline = none := by
      simp [(hcourse.accounts hsound).claim_eq, Interface.claim, ClientRequest.at, hpatience]
    obtain ⟨answer, s₃, hanswered⟩ := probe_answered hdeadline depth s₁
    simpa using (congrArg Prod.fst hprobe).symm.trans (congrArg Prod.fst hanswered)
  | @withdrawn _ _ _ _ j hj _ => simp at hj

end InStep

end Fleet

/-! ## What comes of an allocation -/

/-- What a call that is over has done to its interface: it has granted the request, or nothing. -/
def Interface.Settled (i i' : Interface) (request : Request) : Except LeaseError Lease → Prop
  | .ok l => i.Granted i' request l ∧ ∀ f, i'.reserved f = i.reserved f
  | .error _ => i' = i

lemma Interface.Outcome.settled {now : ℕ} {claim : Claim} {result : Except LeaseError Lease}
    (ho : Interface.Outcome now claim i (.done result, i')) (hi : i.Sound) :
    i.Settled i' claim.request result := by
  cases result with
  | ok l => exact ⟨ho.granted hi, (ho.amended hi).reserved_eq⟩
  | error e => exact ho.eq_of_error

namespace Desk

/-- **Allocation in one formula.** On every interface that can be reached, an allocation beside
which nothing else happens probes the addresses and comes to the result that `Interface.allotted`
says, whatever the prober answers and however long it takes. In a session this is every allocation
of a client that waits as long as it takes, with a prober that leaves the interface alone: the steps
are taken at the times on the clock of the session, and the session has just these probes on record,
with the answers of its prober. -/
theorem allocation_eq_allotted {name : String} {c : InterfaceConfig} {probeTimeout : ℕ}
    {waiting : List Pending} {scope : Scope}
    (hd : Reachable (.ofConfig name c probeTimeout) ⟨i, waiting⟩)
    (hs : i.scope? request.family = some scope)
    (hclient : request.client.validateFor request.family = .ok ())
    (hdeadline : request.deadline = none) :
    (∀ times busy, ∃ i', i.Settled i' request (i.allotted times busy request scope).2 ∧
      ∀ n, maxAttempts + 1 ≤ n → i.alone times busy request n =
        ((i.allotted times busy request scope).1,
          .done (i.allotted times busy request scope).2, i')) ∧
      ∀ (s : Session Fleet FleetCommand Reply) place depth r,
        s.world.interfaces[place]? = some i → Fleet.Spares place depth s.prober →
        r.at s.world.clock = request →
        ∃ times busy i' s', times 0 = s.world.clock ∧
          Session.run Fleet.world (depth + 1) (.on place (.allocate r)) s =
            (.lease (i.allotted times busy request scope).2, s') ∧
          s'.world.interfaces[place]? = some i' ∧
          i.Settled i' request (i.allotted times busy request scope).2 ∧
          Fleet.KeepsStep place depth r s i times busy
            (Interface.answered busy (i.allotted times busy request scope).1)
            (.replied (.lease (i.allotted times busy request scope).2)) s' ∧
          ∀ prober, s.prober = some prober → s.Records prober i.probeTimeout
            (Interface.answered busy (i.allotted times busy request scope).1) none s' := by
  have hsound : Sound ⟨i, waiting⟩ := hd.sound.1
  have hcomes := Interface.comes_allotted hsound.interface hs hclient hdeadline
  refine ⟨?_, ?_⟩
  · intro times busy
    obtain ⟨now, i', halone, ho⟩ := hcomes times busy
    exact ⟨i', ho.settled hsound.interface, halone⟩
  · intro s place depth r hi hspares hr
    subst hr
    have hpatience : r.patience = none := by
      simpa [ClientRequest.at] using hdeadline
    obtain ⟨times, busy, probes, result, s', hrun, hkeeps⟩ :=
      Fleet.run_keepsStep hsound hspares hpatience hi
    obtain ⟨now, i', halone, ho⟩ := hcomes times busy
    -- the session has gone on until the undisturbed allocation is over
    rcases hover : i.alone times busy (r.at s.world.clock) probes.length with
      ⟨probed, progress, i''⟩
    have hactivity := hkeeps.activity_eq
    have hprobes := hkeeps.probes_eq
    have hinterface := hkeeps.now.interface_eq
    rw [hover] at hactivity hprobes hinterface
    subst hprobes
    obtain ⟨result', rfl, hreply⟩ := Fleet.under_eq_replied hactivity
    obtain rfl : result = result' := by simpa using hreply
    have hend := Interface.alone_of_le hover (Nat.le_add_left _ (maxAttempts + 1))
    obtain ⟨rfl, rfl, rfl⟩ :
        probed = (i.allotted times busy (r.at s.world.clock) scope).1 ∧
          result = (i.allotted times busy (r.at s.world.clock) scope).2 ∧ i'' = i' := by
      simpa using hend.symm.trans (halone _ (Nat.le_add_right _ _))
    refine ⟨times, busy, i'', s', hkeeps.start, hrun, hinterface, ho.settled hsound.interface,
      hkeeps, ?_⟩
    intro prober hprober
    have hallocates := hkeeps.now.allocates
    rw [hover] at hallocates
    exact hallocates.recorded hi hsound hprober

/-- A client asks for an address of the default configuration that is in use, as is the lowest one.
In a session with a prober that takes a second for each answer the steps are taken at the same
times. -/
theorem exists_allocation_eq_allotted : ∃ i request scope times busy i' l,
    Reachable (.ofConfig "eth0" ⟨some .default, some .default⟩ 1000) ⟨i, []⟩ ∧
      i.scope? request.family = some scope ∧
      i.allotted times busy request scope =
        ([.v4 (.ofBytes 192 168 1 150), .v4 (.ofBytes 192 168 1 100),
          .v4 (.ofBytes 192 168 1 101)], .ok l) ∧
      i.alone times busy request 9 =
        ((i.allotted times busy request scope).1,
          .done (i.allotted times busy request scope).2, i') ∧
      i'.leases = [l] ∧
      ∃ (s : Session Fleet FleetCommand Reply) (r : ClientRequest) (times' : ℕ → ℕ)
        (busy' : ℕ → Bool) (s' : Session Fleet FleetCommand Reply),
        r.at s.world.clock = request ∧
          Session.run Fleet.world 1 (.on 0 (.allocate r)) s = (.lease (.ok l), s') ∧
          (i.allotted times' busy' request scope).2 = .ok l ∧
          Fleet.KeepsStep 0 0 r s i times' busy'
            (Interface.answered busy' (i.allotted times' busy' request scope).1)
            (.replied (.lease (.ok l))) s' ∧
          s'.log.map (fun record => (record.ip, record.inUse)) =
            [(.v4 (.ofBytes 192 168 1 150), some true), (.v4 (.ofBytes 192 168 1 100), some true),
              (.v4 (.ofBytes 192 168 1 101), some false)] := by
  let i : Interface := .ofConfig "eth0" ⟨some .default, some .default⟩ 1000
  let r : ClientRequest :=
    ⟨⟨[2, 0, 0, 0, 0, 1]⟩, .v4, some (.v4 (.ofBytes 192 168 1 150)), some "Lamp", none⟩
  let request : Request := r.at 0
  let scope : Scope := .ofPool (.ofV4 .default) (.ofSeconds 86400)
  let times (n : ℕ) : ℕ := 1000 * n
  let busy (n : ℕ) : Bool := n < 2
  let l : Lease := .dynamic (.ofMillis 3000) (.v4 (.ofBytes 192 168 1 101)) request.client "lamp"
    (.ofSeconds 86400)
  have hs : i.scope? request.family = some scope := rfl
  have hclient : request.client.validateFor request.family = .ok () := rfl
  have hd : Reachable i ⟨i, []⟩ := .refl
  have hallotted : i.allotted times busy request scope =
      ([.v4 (.ofBytes 192 168 1 150), .v4 (.ofBytes 192 168 1 100),
        .v4 (.ofBytes 192 168 1 101)], .ok l) := by decide +kernel
  obtain ⟨hchain, hsession⟩ := allocation_eq_allotted hd hs hclient rfl
  obtain ⟨i', -, halone⟩ := hchain times busy
  have hleases : (i.alone times busy request 9).2.2.leases = [l] := by decide +kernel
  have halone := halone 9 le_rfl
  rw [halone] at hleases
  let prober : Prober FleetCommand := fun _ ip =>
    ⟨ip = .v4 (.ofBytes 192 168 1 150) || ip = .v4 (.ofBytes 192 168 1 100), 1000, []⟩
  let s : Session Fleet FleetCommand Reply :=
    ⟨.ofInterfaces [i] 0 none, some prober, [], []⟩
  have hspares : Fleet.Spares 0 0 s.prober := Fleet.spares_of_meanwhile (fun _ _ => rfl) 0 0
  have hi : s.world.interfaces[0]? = some i := rfl
  have hr : r.at s.world.clock = request := rfl
  have hreply : (Session.run Fleet.world (0 + 1) (.on 0 (.allocate r)) s).1 = .lease (.ok l) := by
    decide +kernel
  have hlog : (Session.run Fleet.world (0 + 1) (.on 0 (.allocate r)) s).2.log.map
      (fun record => (record.ip, record.inUse)) =
        [(.v4 (.ofBytes 192 168 1 150), some true), (.v4 (.ofBytes 192 168 1 100), some true),
          (.v4 (.ofBytes 192 168 1 101), some false)] := by decide +kernel
  obtain ⟨times', busy', -, s', -, hrun, -, -, hkeeps, -⟩ := hsession s 0 0 r hi hspares hr
  rw [hrun] at hreply hlog
  have hresult : (i.allotted times' busy' request scope).2 = .ok l := by simpa using hreply
  rw [hresult] at hrun hkeeps
  exact ⟨i, request, scope, times, busy, i', l, hd, hs, hallotted, halone, hleases, s, r, times',
    busy', s', hr, hrun, hresult, hkeeps, hlog⟩

end Desk

end DhcpLeasing
