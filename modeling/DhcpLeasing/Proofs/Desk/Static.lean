import DhcpLeasing.Proofs.Desk.Tenure

/-!
# Static leases stay

A static lease is the operator's. No client moves it by what it asks for or gives back, its own
client no more than others, and it does not expire. So it stays as it is until an operator removes
it, edits it, puts another static lease in its place by an edit, or resets the interface:

* `TableChange.Unseats` says which changes of a table touch the lease, and
  `WellFormed.lookup_change_of_static` that the others leave it alone;
* `InterfaceCommand.Unseats` says the same of commands;
* no step of an allocation is such a change, since the lease that it commits is dynamic.
-/

namespace DhcpLeasing

variable {held l m : Lease} {ip : IpAddr}

/-- Whether a change takes a static lease away or puts another one in its place. -/
def TableChange.Unseats (held : Lease) (c : TableChange) : Prop :=
  c.Takes held ∨ ∃ m, c.Commits m ∧ m.ip = held.ip ∧ m.hwAddr = held.hwAddr ∧ m.isStatic

/-- Whether a command takes a static lease away or puts another lease in its place: it removes this
lease, edits it, edits another one so that it becomes one for the same client and address, or
removes all leases. -/
def InterfaceCommand.Unseats (held : Lease) : InterfaceCommand → Prop
  | .removeLease l => l.ip = held.ip ∧ l.hwAddr = held.hwAddr
  | .editLease old new => old.ip = held.ip ∧ old.hwAddr = held.hwAddr ∨
      new.ip = held.ip ∧ new.hwAddr = held.hwAddr ∧ new.isStatic
  | .reset => True
  | _ => False

/-- A static lease never expires. -/
lemma Lease.isExpiredAt_of_static (h : l.isStatic) (now : Timestamp) :
    l.isExpiredAt now = false := by
  simp [isExpiredAt, h]

/-- A static lease stays as it is through every change that does not take it away or put another
one in its place. -/
lemma LeaseTable.WellFormed.lookup_change_of_static {t : LeaseTable} {c : TableChange}
    (h : t.WellFormed) (hl : t.lookup ip = some held) (hstatic : held.isStatic)
    (hkeep : ¬ c.Unseats held) : (t.change c).lookup ip = some held := by
  rcases h.lookup_change_cases c ip with hkept | ⟨-, htakes⟩ | ⟨m, -, -, hplace⟩
  · exact hkept.trans hl
  · exact absurd (.inl (htakes held hl)) hkeep
  · rcases hplace held hl with htakes | hsupplants
    · exact absurd (.inl htakes) hkeep
    · obtain ⟨hm, hcommits⟩ := hsupplants.static hstatic
      exact absurd (.inr ⟨m, hcommits, hsupplants.ip, hsupplants.hwAddr, hm⟩) hkeep

namespace Interface

variable {i : Interface} {command : InterfaceCommand} {c : TableChange} {now : ℕ}

/-! ## Commands -/

/-- An operator's lease is for the client and of the kind that it is entered with. -/
lemma normalizeLease_client (hl : i.normalizeLease l = .ok m) :
    m.ip = l.ip ∧ m.hwAddr = l.hwAddr ∧ m.isStatic = l.isStatic := by
  simp only [normalizeLease, bind_eq_ok_iff, mapError_eq_ok_iff] at hl
  obtain ⟨s, -, -, -, hostname, -, hl⟩ := hl
  split at hl
  all_goals
    simp only [bind_eq_ok_iff, pure_eq_ok_iff] at hl
    obtain ⟨-, -, rfl⟩ := hl
    exact ⟨rfl, rfl, rfl⟩

/-- A client is refused to give back a static lease. -/
lemma release_of_static (hheld : i.leaseByIp held.ip = some held) (hstatic : held.isStatic) :
    (i.release held.hwAddr held.ip).2 = i := by
  obtain ⟨s, hs, hlookup⟩ := Option.bind_eq_some_iff.1 hheld
  simp only [release, changeTable, adminScope_eq_ok_iff.2 hs, hlookup, hstatic, and_self, if_true]
  exact setScope_of_scope? hs

/-- Of all commands only an edit commits a lease. -/
lemma Makes.commits (h : i.Makes now command c) (hcommits : c.Commits m) :
    ∃ old new, command = .editLease old new ∧ i.normalizeLease new = .ok m := by
  cases command with
  | editLease old new =>
    obtain ⟨l, hl, rfl⟩ := h
    obtain rfl : l = m := hcommits
    exact ⟨old, new, rfl, hl⟩
  | addLease l =>
    obtain ⟨l', -, rfl⟩ := h
    exact hcommits.elim
  | release client ip =>
    obtain rfl : c = .remove ip client := h
    exact hcommits.elim
  | removeLease l =>
    obtain rfl : c = .remove l.ip l.hwAddr := h
    exact hcommits.elim
  | reset =>
    obtain rfl : c = .reset := h
    exact hcommits.elim
  | reap time =>
    obtain rfl : c = .reap (time.getD (.ofMillis now)) := h
    exact hcommits.elim
  | _ => exact h.elim

/-- Of the commands that leave a static lease alone, only that of its own client to give it back
would make a change that does not. -/
lemma Makes.unseats (h : i.Makes now command c) (hstatic : held.isStatic)
    (hc : c.Unseats held) : command.Unseats held ∨ command = .release held.hwAddr held.ip := by
  rcases hc with htakes | ⟨m, hcommits, hip, hhw, hm⟩
  · have htaken : command.Takes now held := h.takes htakes
    cases command with
    | release client ip =>
      obtain ⟨rfl, rfl⟩ := htaken
      exact .inr rfl
    | removeLease l => exact .inl htaken
    | editLease old new => exact .inl (.inl htaken)
    | reset => exact .inl trivial
    | reap time =>
      rw [InterfaceCommand.Takes, Lease.isExpiredAt_of_static hstatic] at htaken
      cases htaken
    | _ => exact htaken.elim
  · obtain ⟨old, new, rfl, hl⟩ := h.commits hcommits
    obtain ⟨hip', hhw', hkind⟩ := normalizeLease_client hl
    exact .inl (.inr ⟨hip'.symm.trans hip, hhw'.symm.trans hhw, hkind.symm.trans hm⟩)

/-- A command that does not take a static lease away or put another lease in its place leaves it as
it is. -/
lemma Sound.leaseByIp_submit_of_static (h : i.Sound) (hheld : i.leaseByIp held.ip = some held)
    (hstatic : held.isStatic) (hcommand : ∀ r, command ≠ .allocate r)
    (hkeep : ¬ command.Unseats held) : (i.submit now command).2.leaseByIp held.ip = some held := by
  by_cases hrelease : command = .release held.hwAddr held.ip
  · subst hrelease
    show (i.release held.hwAddr held.ip).2.leaseByIp held.ip = some held
    rw [release_of_static hheld hstatic, hheld]
  · rcases scope?_submit_cases i now hcommand held.ip.family with heq | ⟨s, c, hs, hmakes, heq⟩
    · rw [leaseByIp, heq, ← leaseByIp, hheld]
    · rw [leaseByIp_of_scope? hs] at hheld
      have hchange : ¬ c.Unseats held := by
        intro hc
        rcases hmakes.unseats hstatic hc with hunseats | heq
        · exact hkeep hunseats
        · exact hrelease heq
      rw [leaseByIp_of_scope? heq, Scope.table_change]
      exact (h.scope hs).table.lookup_change_of_static hheld hstatic hchange

end Interface

/-! ## Allocations -/

/-- No step of an allocation touches a static lease, whoever the allocation is for. -/
lemma Allocation.Outcome.lookup_of_static {now : ℕ} {claim : Claim} {s : Scope}
    {r : Progress × Scope} (ho : Outcome now claim s r) (h : s.Sound)
    (hl : s.table.lookup ip = some held) (hstatic : held.isStatic) :
    r.2.table.lookup ip = some held := by
  cases ho with
  | kept held' static => exact hl
  | @renewed l held' dynamic =>
    have hkeep : ¬ (TableChange.renew (.ofMillis now) claim.request.client l.ip
        s.leaseDuration).Unseats held := by
      rintro (htakes | ⟨m, hcommits, -⟩)
      · exact htakes
      · exact hcommits
    rw [Scope.table_change]
    exact h.table.lookup_change_of_static hl hstatic hkeep
  | @leased ip offered unreserved onTime admitted =>
    -- what is committed is dynamic
    have hkeep : ¬ (TableChange.commit (leaseFor now claim ip s)).Unseats held := by
      rintro (htakes | ⟨m, rfl, -, -, hstatic⟩)
      · exact htakes
      · cases hstatic
    rw [Scope.table_change]
    exact h.table.lookup_change_of_static hl hstatic hkeep
  | failed e => exact hl
  | probing claim_eq offered unleased unreserved => exact hl

lemma Interface.Outcome.leaseByIp_of_static {i : Interface} {now : ℕ} {claim : Claim}
    {r : Progress × Interface} (ho : Outcome now claim i r) (h : i.Sound)
    (hheld : i.leaseByIp ip = some held) (hstatic : held.isStatic) :
    r.2.leaseByIp ip = some held := by
  cases ho with
  | refused e => exact hheld
  | step scope fits outcome =>
    rw [leaseByIp, scope?_setScope]
    split
    · next hfamily =>
      rw [← hfamily] at scope
      rw [leaseByIp_of_scope? scope] at hheld
      exact outcome.lookup_of_static (h.scope scope) hheld hstatic
    · exact hheld

/-! ## Runs -/

/-- What it means that an interface has a lease as it is: it is listed, and the table of its family
finds it by each of its keys. -/
structure Interface.Carries (i : Interface) (l : Lease) : Prop where
  mem : l ∈ i.leases
  found : ∃ s, i.scope? l.family = some s ∧ s.table.lookup l.ip = some l ∧
    s.table.lookupByHw l.hwAddr = some l ∧
    (l.hostname ≠ "" → s.table.lookupByHostname l.hostname = some l)

lemma Interface.Sound.carries {i : Interface} (h : i.Sound) (hl : i.leaseByIp l.ip = some l) :
    i.Carries l := by
  obtain ⟨s, hs, hlookup⟩ := Option.bind_eq_some_iff.1 hl
  have htable := (h.scope hs).table
  refine ⟨mem_leases_iff.2 ⟨_, s, hs, htable.mem_leases_iff.2 hlookup⟩, s, hs, hlookup, ?_, ?_⟩
  · exact htable.lookupByHw_eq_some_iff.2 ⟨hlookup, rfl⟩
  · intro hname
    exact (htable.lookupByHostname_eq_some_iff hname).2 ⟨hlookup, hname, rfl⟩

namespace Desk

open Relation

variable {d d' : Desk}

/-- A static lease stays as it is in every step but a command that takes it away or puts another one
in its place. -/
lemma StepBy.leaseByIp_of_static (h : StepBy (fun _ _ command => ¬ command.Unseats held) d d')
    (hd : d.Sound) (hheld : d.interface.leaseByIp held.ip = some held) (hstatic : held.isStatic) :
    d'.interface.leaseByIp held.ip = some held := by
  cases h with
  | move hmove =>
    obtain ⟨now, claim, i, hi, ho, hleft, -⟩ := hd.move_outcome hmove
    rw [← Interface.leaseByIp_of_unreserved hleft] at hheld
    rw [interface_settle]
    exact ho.leaseByIp_of_static hi.interface hheld hstatic
  | abandon i p before after =>
    show (i.abandon p).leaseByIp held.ip = some held
    rwa [Interface.leaseByIp_of_unreserved (i.unreserved_abandon p)]
  | command now hcommand i waiting hkeep =>
    exact hd.interface.leaseByIp_submit_of_static hheld hstatic hcommand hkeep

/-- A static lease stays as it is in every run of such steps. -/
lemma StepBy.run_of_static
    (h : ReflTransGen (StepBy fun _ _ command => ¬ command.Unseats held) d d') (hd : d.Sound)
    (hheld : d.interface.leaseByIp held.ip = some held) (hstatic : held.isStatic) :
    d'.Sound ∧ d'.interface.leaseByIp held.ip = some held := by
  -- by induction on the run: what carries it is that desks stay sound
  induction h with
  | refl => exact ⟨hd, hheld⟩
  | tail _ hstep ih =>
    obtain ⟨hsound, hheld⟩ := ih
    exact ⟨(hsound.step hstep).1, hstep.leaseByIp_of_static hsound hheld hstatic⟩

/-- **Static leases stay.** A static lease stays as it is, and is found by each of its keys, in
every run in which no command removes it, edits it, puts another static lease in its place by an
edit, or resets the interface: whatever clients ask for and give back, whatever is added, and
however much time passes. In one step it goes by no other command than these. The same holds of
sessions, with any prober that has no such command carried out. -/
theorem static_leases_stay {name : String} {c : InterfaceConfig} {probeTimeout : ℕ}
    (hd : Reachable (.ofConfig name c probeTimeout) d) (hheld : held ∈ d.interface.leases)
    (hstatic : held.isStatic) :
    (∀ d', ReflTransGen (StepBy fun _ _ command => ¬ command.Unseats held) d d' →
        d'.interface.Carries held) ∧
      (∀ d', Step d d' → ¬ d'.interface.Carries held →
        ∃ now command, command.Unseats held ∧
          d' = ⟨(d.interface.submit now command).2, d.waiting⟩) ∧
      ∀ (s s' : Session Fleet FleetCommand Reply) place depth outer cs result,
        s.world.interfaces[place]? = some d.interface →
        s.Keeps (·.Within place fun command => ¬ command.Unseats held) →
        (∀ c ∈ cs, c.Within place fun command => ¬ command.Unseats held) →
        Session.carryOutAll (Session.carryOut Fleet.world depth outer) cs s = (result, s') →
        ∃ i, s'.world.interfaces[place]? = some i ∧ i.Carries held := by
  have hsound : d.Sound := hd.sound.1
  have hlookup : d.interface.leaseByIp held.ip = some held := by
    obtain ⟨s, hs, hlookup⟩ := hsound.interface.exists_scope hheld
    rw [Interface.leaseByIp_of_scope? hs, hlookup]
  have hrun : ∀ d', ReflTransGen (StepBy fun _ _ command => ¬ command.Unseats held) d d' →
      d'.interface.Carries held := by
    intro d' hrun
    obtain ⟨hsound', hlookup'⟩ := StepBy.run_of_static hrun hsound hlookup hstatic
    exact hsound'.interface.carries hlookup'
  refine ⟨hrun, ?_, ?_⟩
  · intro d' hstep hgone
    cases hstep with
    | move hmove => exact absurd (hrun _ (.single (.move hmove))) hgone
    | abandon i p before after => exact absurd (hrun _ (.single (.abandon i p before after))) hgone
    | @command now command hcommand i waiting _ =>
      refine ⟨now, command, ?_, rfl⟩
      by_contra hkeep
      exact hgone (hrun _ (.single (.command now hcommand i waiting hkeep)))
  · intro s s' place depth outer cs result hi hs hcs hcarry
    have hleads := Session.carryOutAll_leads Session.carryOut_leads hcs hs hcarry []
    obtain ⟨i, hi', hsteps⟩ := Fleet.desk_steps hleads.steps hi
    exact ⟨i, hi', hrun _ (StepBy.beside hsteps d.waiting)⟩

/-- A printer has a static lease on the default configuration. It asks for another address, wants to
give its own back, and another client comes. -/
theorem exists_static_lease_stays : ∃ d d' held,
    Reachable (.ofConfig "eth0" ⟨some .default, some .default⟩ 0) d ∧ held ∈ d.interface.leases ∧
      held.isStatic ∧ ReflTransGen (StepBy fun _ _ command => ¬ command.Unseats held) d d' ∧
      d'.interface.leases.length = 2 ∧ d'.interface.Carries held := by
  let i : Interface := .ofConfig "eth0" ⟨some .default, some .default⟩ 0
  let held : Lease := .static (.v4 (.ofBytes 192 168 1 50)) ⟨[2, 0, 0, 0, 0, 1]⟩ "printer"
  let wanted : IpAddr := .v4 (.ofBytes 192 168 1 150)
  let request (n : UInt8) : Request := ⟨⟨[2, 0, 0, 0, 0, n]⟩, .v4, some wanted, none, none⟩
  let d : Desk := ⟨(i.submit 0 (.addLease held)).2, []⟩
  have hadd : ∀ r, InterfaceCommand.addLease held ≠ .allocate r := by simp
  have hrelease : ∀ r, InterfaceCommand.release held.hwAddr held.ip ≠ .allocate r := by simp
  have hd : Reachable i d := .single (.command 0 hadd i [] trivial)
  have hheld : held ∈ d.interface.leases := by decide +kernel
  have hask : ∀ (d : Desk) now r, StepBy (fun _ _ command => ¬ command.Unseats held) d
      (settle d.waiting (d.interface.begin now r)) :=
    fun d now r => .move (.begin now r d.interface d.waiting)
  have hgiveBack : ∀ d : Desk, StepBy (fun _ _ command => ¬ command.Unseats held) d
      ⟨(d.interface.submit 2 (.release held.hwAddr held.ip)).2, d.waiting⟩ :=
    fun d => .command 2 hrelease d.interface d.waiting id
  have hrun := ((ReflTransGen.single (hask d 1 (request 1))).tail (hgiveBack _)).tail
    (hask _ 3 (request 2))
  exact ⟨d, _, held, hd, hheld, rfl, hrun, by decide +kernel,
    (static_leases_stay hd hheld rfl).1 _ hrun⟩

end Desk

end DhcpLeasing
