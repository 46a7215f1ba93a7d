import DhcpLeasing.Proofs.Fleet
import DhcpLeasing.Proofs.Interface.Command
import DhcpLeasing.Proofs.Time.Timestamp

/-!
# Clients keep their addresses

A client that holds a lease gets it again at once, whatever it asks for and whatever else is going
on; and it holds the address until somebody removes, releases or edits the lease, or the lease is
reaped:

* `Interface.begin_keeps`: an allocation for such a client is over in its first step;
* `Desk.SparingStep` is a step in which nobody takes the lease away, and `SparingStep.holds` says
  that the client still holds the address after it;
* `Desk.client_keeps_address` puts both together for runs.
-/

namespace DhcpLeasing

variable {held l : Lease} {client : HwAddr} {ip : IpAddr} {d : Duration}

/-! ## Keeping a lease -/

/-- What it means that `l` is the lease `held`, kept at the time `now`: a static lease stays as it
is; a dynamic one differs in its expiry, which is the duration away or the last point in time. -/
structure Lease.KeptAs (now : Timestamp) (d : Duration) (held l : Lease) : Prop where
  static : held.isStatic → l = held
  dynamic : held.isStatic = false → ∃ t, l = { held with expiresAt := some t } ∧
    t.instant = min (now.instant + d.nanos) Timestamp.latest.instant

namespace Lease

lemma keptAs_renew (now : ℕ) (d : Duration) (held : Lease) :
    held.KeptAs (.ofMillis now) d (held.renew (.ofMillis now) d) := by
  have hpast : 0 ≤ (Timestamp.ofMillis now).seconds := by
    show 0 ≤ (now : ℤ) / 1000
    omega
  refine ⟨?_, ?_⟩
  · intro hstatic
    rw [renew, if_pos hstatic]
  · intro hdynamic
    refine ⟨_, ?_, Timestamp.instant_expiryAfter hpast d⟩
    rw [renew, if_neg (by simp [hdynamic])]

end Lease

namespace Interface

variable {i i' : Interface} {request : Request} {f : Family}

/-- An allocation is over in its first step for a client that holds a lease. -/
theorem begin_of_held (h : i.Sound) (hheld : i.leaseByHw request.family request.client = some held)
    (now : ℕ) :
    ∃ d i', i.leaseDuration? request.family = some d ∧
      i.begin now request = (.done (.ok (held.renew (.ofMillis now) d)), i') := by
  obtain ⟨s, hs, hlookup⟩ := Option.bind_eq_some_iff.1 hheld
  have hsound : s.Sound := h.scope hs
  obtain ⟨hl, hclient⟩ := hsound.table.lookupByHw_eq_some_iff.1 hlookup
  -- the client has a lease, so its hardware address has been checked before
  have hvalid : request.client.validateFor request.family = .ok () := by
    rw [← hclient, ← h.family hs]
    exact (hsound.fits hl).client
  have hround : (Allocation.round now (i.claim request) Allocation.maxRetries s).1 = _ :=
    Allocation.round_of_held hsound hlookup now Allocation.maxRetries
  refine ⟨s.leaseDuration,
    i.setScope (Allocation.round now (i.claim request) Allocation.maxRetries s).2 request.family,
    by rw [leaseDuration?, hs, Option.map_some], ?_⟩
  simp only [begin, hs, hvalid, hround]

/-- A client that asks for a lease that it holds already gets it, and all other leases stay. -/
lemma begin_keeps (h : i.Sound) (hheld : i.leaseByHw request.family request.client = some held)
    (now : ℕ) :
    ∃ duration l i', i.leaseDuration? request.family = some duration ∧
      i.begin now request = (.done (.ok l), i') ∧ l.ip = held.ip ∧
      held.KeptAs (.ofMillis now) duration l ∧ i.Granted i' request l := by
  obtain ⟨duration, i', hduration, hbegin⟩ := begin_of_held h hheld now
  have ho := begin_outcome h now request
  rw [hbegin] at ho
  exact ⟨duration, _, i', hduration, hbegin, Lease.ip_renew .., Lease.keptAs_renew now duration held,
    ho.granted h⟩

/-! ## Taking a lease away -/

/-- Whether a client holds an address. -/
def Holds (i : Interface) (client : HwAddr) (ip : IpAddr) : Prop :=
  ∃ held, i.leaseByIp ip = some held ∧ held.hwAddr = client

lemma Holds.of_unreserved (h : i.Holds client ip) (heq : i.unreserved = i'.unreserved) :
    i'.Holds client ip := by
  obtain ⟨held, hheld, hclient⟩ := h
  exact ⟨held, by rw [← leaseByIp_of_unreserved heq, hheld], hclient⟩

/-- In a sound interface the client that holds an address is found to have a lease for it. -/
lemma Holds.leaseByHw (h : i.Holds client ip) (hi : i.Sound) :
    ∃ held, i.leaseByHw ip.family client = some held ∧ held.ip = ip := by
  obtain ⟨held, hheld, rfl⟩ := h
  obtain ⟨s, hs, hlookup⟩ := Option.bind_eq_some_iff.1 hheld
  have hip : held.ip = ip := (hi.scope hs).table.ip_eq hlookup
  refine ⟨held, ?_, hip⟩
  rw [Interface.leaseByHw, hs, Option.bind_some, (hi.scope hs).table.lookupByHw_eq_some_iff, hip]
  exact ⟨hlookup, rfl⟩

end Interface

/-- Whether a command takes a lease away or is meant to replace it: it removes, releases or edits
this lease, or removes all leases, or those that have expired, among them this one. -/
def InterfaceCommand.Takes (now : ℕ) (held : Lease) : InterfaceCommand → Prop
  | .release client ip => ip = held.ip ∧ client = held.hwAddr
  | .removeLease l => l.ip = held.ip ∧ l.hwAddr = held.hwAddr
  | .editLease old _ => old.ip = held.ip ∧ old.hwAddr = held.hwAddr
  | .reset => True
  | .reap time => held.isExpiredAt (time.getD (.ofMillis now))
  | _ => False

/-- A change that does not take a lease away leaves its client the address. It may put another lease
of the same client in its place. -/
lemma LeaseTable.WellFormed.holds_change {t : LeaseTable} {c : TableChange} (h : t.WellFormed)
    (hl : t.lookup ip = some held) (hspare : ¬ c.Takes held) :
    ∃ m, (t.change c).lookup ip = some m ∧ m.hwAddr = held.hwAddr := by
  rcases h.lookup_change_cases c ip with hkept | ⟨-, htakes⟩ | ⟨m, hm, -, hplace⟩
  · exact ⟨held, hkept.trans hl, rfl⟩
  · exact absurd (htakes held hl) hspare
  · rcases hplace held hl with htakes | hsupplants
    · exact absurd htakes hspare
    · exact ⟨m, hm, hsupplants.hwAddr⟩

namespace Interface

variable {i : Interface} {command : InterfaceCommand} {c : TableChange} {now : ℕ}

lemma Makes.takes (h : i.Makes now command c) (hc : c.Takes held) : command.Takes now held := by
  cases command with
  | addLease l =>
    obtain ⟨m, -, rfl⟩ := h
    exact hc
  | editLease old new =>
    obtain ⟨m, -, rfl⟩ := h
    exact hc
  | release client ip =>
    obtain rfl : c = .remove ip client := h
    exact hc
  | removeLease l =>
    obtain rfl : c = .remove l.ip l.hwAddr := h
    exact hc
  | reset => trivial
  | reap time =>
    obtain rfl : c = .reap (time.getD (.ofMillis now)) := h
    exact hc
  | _ => exact h.elim

/-- A command that does not take a lease away leaves its client the address. -/
lemma Holds.submit (h : i.Holds client ip) (hi : i.Sound) (hcommand : ∀ r, command ≠ .allocate r)
    (hspare : ∀ held, i.leaseByIp ip = some held → held.hwAddr = client →
      ¬ command.Takes now held) :
    (i.submit now command).2.Holds client ip := by
  obtain ⟨held, hheld, rfl⟩ := h
  rcases scope?_submit_cases i now hcommand ip.family with heq | ⟨s, c, hs, hmakes, heq⟩
  · exact ⟨held, by rw [leaseByIp, heq, ← leaseByIp, hheld], rfl⟩
  · have hlookup : s.table.lookup ip = some held := by rwa [leaseByIp_of_scope? hs] at hheld
    have hchange : ¬ c.Takes held := by
      intro htakes
      exact hspare held hheld rfl (hmakes.takes htakes)
    obtain ⟨m, hm, hhw⟩ := (hi.scope hs).table.holds_change hlookup hchange
    exact ⟨m, by rw [leaseByIp, heq, Option.bind_some, Scope.table_change, hm], hhw⟩

/-- No step of an allocation takes an address from a client, whoever the allocation is for. -/
lemma Holds.outcome {claim : Claim} {r : Progress × Interface} (h : i.Holds client ip)
    (hi : i.Sound) (ho : Outcome now claim i r) : r.2.Holds client ip := by
  obtain ⟨progress, i'⟩ := r
  obtain ⟨held, hheld, rfl⟩ := h
  cases progress with
  | done result =>
    cases result with
    | error e => exact ⟨held, by rw [ho.eq_of_error, hheld], rfl⟩
    | ok l =>
      have hgranted := ho.granted hi
      by_cases hip : ip = l.ip
      · subst hip
        exact ⟨l, hgranted.leaseByIp, by rw [hgranted.hwAddr_eq, hgranted.own hheld]⟩
      · exact ⟨held, by rw [hgranted.others hip, hheld], rfl⟩
  | probing p =>
    obtain ⟨-, -, s, hs, -, -, -, rfl⟩ := ho.probing
    have hkept := unreserved_setScope hs (Scope.unreserved_hold s p.ip)
    exact Holds.of_unreserved ⟨held, hheld, rfl⟩ hkept.symm

end Interface

/-! ## Runs that spare a client -/

namespace Desk

/-- A step in which nobody takes a client's lease for an address away. -/
abbrev SparingStep (client : HwAddr) (ip : IpAddr) : Desk → Desk → Prop :=
  StepBy fun now i command => ∀ held, i.leaseByIp ip = some held → held.hwAddr = client →
    ¬ command.Takes now held

variable {d d' : Desk}

/-- A client that is spared holds its address after the step, too. -/
lemma SparingStep.holds (h : SparingStep client ip d d') (hd : d.Sound)
    (hholds : d.interface.Holds client ip) : d'.interface.Holds client ip := by
  cases h with
  | move hmove =>
    obtain ⟨now, claim, i, hi, ho, hleft, -⟩ := hd.move_outcome hmove
    rw [interface_settle]
    exact (hholds.of_unreserved hleft.symm).outcome hi.interface ho
  | abandon i p before after => exact hholds.of_unreserved (i.unreserved_abandon p).symm
  | command now hcommand i waiting spares => exact hholds.submit hd.interface hcommand spares

/-- A client that is spared holds its address after every run. -/
lemma SparingStep.run_holds (h : Relation.ReflTransGen (SparingStep client ip) d d') (hd : d.Sound)
    (hholds : d.interface.Holds client ip) : d'.Sound ∧ d'.interface.Holds client ip := by
  -- by induction on the run: what carries it is that desks stay sound
  induction h with
  | refl => exact ⟨hd, hholds⟩
  | tail _ hstep ih =>
    obtain ⟨hsound, hholds⟩ := ih
    exact ⟨(hsound.step hstep).1, hstep.holds hsound hholds⟩

/-- A step that gives a client a lease leaves it holding the address. -/
lemma Move.holds {others : List Pending} {i : Interface} (hmove : Move d others (.done (.ok l), i))
    (hd : d.Sound) : Sound ⟨i, others⟩ ∧ i.Holds l.hwAddr l.ip := by
  obtain ⟨now, claim, base, hbase, ho, -, -⟩ := hd.move_outcome hmove
  exact ⟨hbase.settle ho, l, (ho.granted hbase.interface).leaseByIp, rfl⟩

/-- An allocation that is over in its first step asks no prober. -/
lemma carryOut_of_begin {s : Session Fleet FleetCommand Reply} {place : ℕ} {i i' : Interface}
    {request : ClientRequest} {result : Except LeaseError Lease}
    (hi : s.world.interfaces[place]? = some i)
    (hbegin : i.begin s.world.clock (request.at s.world.clock) = (.done result, i'))
    (depth : ℕ) (outer : List (Option ℕ)) :
    Session.carryOut Fleet.world depth outer (.on place (.allocate request)) s =
      (.ok (.lease result),
        s.setWorld { s.world with interfaces := s.world.interfaces.set place i' }) := by
  apply Session.carryOut_replied
  simp only [Fleet.world, Fleet.submit, Fleet.withInterface_of_some hi, Interface.submit, hbegin,
    Progress.activity, Activity.under]

/-- **A client keeps its address.** A client that holds a lease gets it again at once, whatever it
asks for: a static lease as it is, a dynamic one with a new expiry, and all other leases stay as
they are. In a session no prober hears of it. So from one allocation of a client to its next one the
address stays the same, unless its lease is removed, released, edited or reaped, or all are reset in
between. -/
theorem client_keeps_address {name : String} {c : InterfaceConfig} {probeTimeout : ℕ}
    (hd : Reachable (.ofConfig name c probeTimeout) d) :
    (∀ now request held, d.interface.leaseByHw request.family request.client = some held →
      ∃ duration l i', d.interface.leaseDuration? request.family = some duration ∧
        d.interface.begin now request = (.done (.ok l), i') ∧ l.ip = held.ip ∧
        held.KeptAs (.ofMillis now) duration l ∧ d.interface.Granted i' request l) ∧
      (∀ (s : Session Fleet FleetCommand Reply) place (request : ClientRequest) held,
        s.world.interfaces[place]? = some d.interface →
        d.interface.leaseByHw request.family request.client = some held → ∀ depth outer,
        ∃ l x, Session.carryOut Fleet.world depth outer (.on place (.allocate request)) s =
          (.ok (.lease (.ok l)), s.setWorld x) ∧ l.ip = held.ip) ∧
      ∀ others l₁ i₁, Move d others (.done (.ok l₁), i₁) → ∀ d',
        Relation.ReflTransGen (SparingStep l₁.hwAddr l₁.ip) ⟨i₁, others⟩ d' →
        ∀ now request, request.client = l₁.hwAddr → request.family = l₁.family →
        ∃ l₂ i₂, d'.interface.begin now request = (.done (.ok l₂), i₂) ∧ l₂.ip = l₁.ip := by
  have hsound : d.Sound := hd.sound.1
  refine ⟨?_, ?_, ?_⟩
  · intro now request held hheld
    exact Interface.begin_keeps hsound.interface hheld now
  · intro s place request held hi hheld depth outer
    let asked : Request := request.at s.world.clock
    have hasked : d.interface.leaseByHw asked.family asked.client = some held := hheld
    obtain ⟨-, l, i', -, hbegin, hip, -⟩ :=
      Interface.begin_keeps hsound.interface hasked s.world.clock
    exact ⟨l, _, carryOut_of_begin hi hbegin depth outer, hip⟩
  · intro others l₁ i₁ hmove d' hrun now request hclient hfamily
    obtain ⟨hleft, hholds⟩ := hmove.holds hsound
    obtain ⟨hsound', hholds'⟩ := SparingStep.run_holds hrun hleft hholds
    obtain ⟨held, hheld, hip⟩ := hholds'.leaseByHw hsound'.interface
    have hheld : d'.interface.leaseByHw request.family request.client = some held := by
      rw [hclient, hfamily]
      exact hheld
    obtain ⟨-, l₂, i₂, -, hbegin, hkept, -⟩ := Interface.begin_keeps hsound'.interface hheld now
    exact ⟨l₂, i₂, hbegin, hkept.trans hip⟩

/-- A client gets the first address of the default configuration, and gets it again when it asks for
another one, under the name of a client that has come in between. -/
theorem exists_client_keeps_address : ∃ d others l₁ i₁ d' now request,
    Reachable (.ofConfig "eth0" ⟨some .default, some .default⟩ 0) d ∧
      Move d others (.done (.ok l₁), i₁) ∧
      Relation.ReflTransGen (SparingStep l₁.hwAddr l₁.ip) ⟨i₁, others⟩ d' ∧
      d'.interface.leases.length = 2 ∧ request.client = l₁.hwAddr ∧ request.family = l₁.family ∧
      request.wanted = some (.v4 (.ofBytes 192 168 1 150)) ∧ request.hostname = some "lamp" ∧
      ∃ l₂ i₂, d'.interface.begin now request = (.done (.ok l₂), i₂) ∧ l₂.ip = l₁.ip := by
  let i : Interface := .ofConfig "eth0" ⟨some .default, some .default⟩ 0
  let request (n : UInt8) : Request := ⟨⟨[2, 0, 0, 0, 0, n]⟩, .v4, none, some "lamp", none⟩
  let l : Lease := .dynamic (.ofMillis 0) (.v4 (.ofBytes 192 168 1 100)) (request 1).client "desk"
    (.ofSeconds 86400)
  let first : Request := { request 1 with hostname := some "desk" }
  let again : Request := { request 1 with wanted := some (.v4 (.ofBytes 192 168 1 150)) }
  let i' := (i.begin 0 first).2
  have hdone : i.begin 0 first = (.done (.ok l), i') := Prod.fst_eq_iff.1 (by decide +kernel)
  have hmove : Move ⟨i, []⟩ [] (.done (.ok l), i') := hdone ▸ .begin 0 first i []
  have hother : SparingStep l.hwAddr l.ip ⟨i', []⟩ (settle [] (i'.begin 1 (request 2))) :=
    .move (.begin 1 (request 2) i' [])
  have hkept := (client_keeps_address (d := ⟨i, []⟩) .refl).2.2 [] l i' hmove _ (.single hother)
    90000000 again rfl rfl
  exact ⟨_, _, _, _, _, _, again, .refl, hmove, .single hother, by decide +kernel, rfl, rfl, rfl, rfl,
    hkept⟩

end Desk

end DhcpLeasing
