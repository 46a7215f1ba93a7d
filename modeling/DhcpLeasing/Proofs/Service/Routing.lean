import DhcpLeasing.Proofs.Desk.Leases
import DhcpLeasing.Proofs.LeaseTable.Exchange
import DhcpLeasing.Proofs.Service.Runs

/-!
# Finding the interface of a lease

Clients come to an interface by its name, and so do stored leases. What operators ask for, and what
clients give back, goes to the first interface with the address in one of its subnets. The two agree
as far as subnets do not overlap:

* every lease is in a subnet of the interface that holds it, because its pools have been checked;
* if no interface with a lower name has that address in a subnet, everything that goes by the
  address reaches the lease;
* a configuration may have two interfaces in one subnet, and then a lease of the second one is out
  of reach.
-/

namespace DhcpLeasing

open Relation

namespace Interface

variable {i : Interface} {l : Lease} {s : Scope}

lemma Sound.leaseByIp_eq (h : i.Sound) (hl : l ∈ i.leases) : i.leaseByIp l.ip = some l := by
  obtain ⟨s, hs, hlookup⟩ := h.exists_scope hl
  rw [leaseByIp_of_scope? hs, hlookup]

/-- Striking a lease takes it out of the list of all leases. -/
lemma Sound.leases_strike (h : i.Sound) (hs : i.scope? l.ip.family = some s)
    (hl : s.table.lookup l.ip = some l) :
    (i.setScope { s with table := s.table.strike l.ip } l.ip.family).leases = i.leases.erase l := by
  obtain ⟨before, after, hbefore, hafter, hleases⟩ := h.leases_split hs
  have hsame := hleases s
  rw [setScope_of_scope? hs] at hsame
  have hkept : ∀ {ms : List Lease}, (∀ m ∈ ms, m.family ≠ l.ip.family) →
      ms.filter (· ≠ l) = ms := by
    intro ms hms
    apply List.filter_eq_self.2
    intro m hm
    apply decide_eq_true
    intro heq
    exact hms m hm (congrArg Lease.family heq)
  rw [Lease.erase_eq_filter h.nodup_leases, hleases, hsame, List.filter_append, List.filter_append,
    hkept hbefore, hkept hafter, (h.scope hs).table.leases_strike_of_lookup hl]

/-- An operator removes any lease that is there. -/
lemma Sound.removeLease_eq (h : i.Sound) (hl : l ∈ i.leases) :
    ∃ i', i.removeLease l = (.ok l, i') ∧ i'.leases = i.leases.erase l := by
  obtain ⟨s, hs, hlookup⟩ := h.exists_scope hl
  refine ⟨_, ?_, h.leases_strike hs hlookup⟩
  have hfind : s.table.find l.ip l.hwAddr = .ok l := LeaseTable.find_eq_ok_iff.2 ⟨hlookup, rfl⟩
  simp only [removeLease, changeTable, adminScope_eq_ok_iff.2 hs, LeaseTable.remove, hfind]

/-- A client gives back any dynamic lease of its own. -/
lemma Sound.release_eq (h : i.Sound) (hl : l ∈ i.leases) (hdynamic : l.isStatic = false) :
    ∃ i', i.release l.hwAddr l.ip = (.ok l, i') ∧ i'.leases = i.leases.erase l := by
  obtain ⟨s, hs, hlookup⟩ := h.exists_scope hl
  refine ⟨_, ?_, h.leases_strike hs hlookup⟩
  have hfind : s.table.find l.ip l.hwAddr = .ok l := LeaseTable.find_eq_ok_iff.2 ⟨hlookup, rfl⟩
  simp only [release, changeTable, adminScope_eq_ok_iff.2 hs, hlookup, hdynamic,
    Bool.false_eq_true, and_false, if_false, LeaseTable.remove, hfind]

end Interface

namespace Service

variable {s s' : Service} {name : String} {i i' : Interface} {l : Lease} {ip : IpAddr} {now : ℕ}

/-! ## The first interface that serves an address -/

/-- No interface with a lower name has the address in one of its subnets. -/
def FirstAt (s : Service) (name : String) (ip : IpAddr) : Prop :=
  ∀ other j, s.interfaces.get? other = some j → compare other name = .lt → ¬ j.serves ip

lemma interfaceFor_of_first (hi : s.interfaces.get? name = some i) (hserves : i.serves ip)
    (hfirst : s.FirstAt name ip) : s.interfaceFor ip = .ok (name, i) := by
  obtain ⟨before, after, hentries⟩ := List.append_of_mem (SortedMap.mem_toList_iff.2 hi)
  have hnone : ∀ e ∈ before, ¬ e.2.serves ip := by
    intro e he
    have hlower : compare e.1 name = .lt := by
      have hascending := s.interfaces.ascending
      rw [hentries] at hascending
      exact (List.pairwise_append.1 hascending).2.2 e he (name, i) List.mem_cons_self
    have he : (e.1, e.2) ∈ s.interfaces.toList := by
      rw [hentries]
      exact List.mem_append_left _ he
    exact hfirst e.1 e.2 (SortedMap.mem_toList_iff.1 he) hlower
  unfold interfaceFor
  rw [hentries, List.find?_append, List.find?_eq_none.2, Option.none_or, List.find?_cons_of_pos]
  · exact hserves
  · intro e he
    exact hnone e he

/-- What an interface is asked to change is changed there, and on no other interface. -/
lemma changeLease_of_first (change : Interface → Except LeaseError Lease × Interface)
    (hfor : s.interfaceFor ip = .ok (name, i)) (hchange : change i = (.ok l, i')) (now : ℕ) :
    ∃ s', s.changeLease now ip change = (.ok l, s') ∧
      s'.interfaces = s.interfaces.insert name i' := by
  refine ⟨(s.setInterface name i').noteChange now true, ?_, ?_⟩
  · simp only [changeLease, hfor, hchange, afterChange]
  · rw [interfaces_noteChange]
    rfl

/-! ## Reaching a lease -/

/-- What it means that a lease of an interface is reached by its address. -/
structure Reaches (s : Service) (name : String) (i : Interface) (l : Lease) : Prop where
  leaseByIp : s.leaseByIp l.ip = some l
  hwByIp : s.hwByIp l.ip = some l.hwAddr
  removed : ∀ now, ∃ s' i', s.removeLease now l = (.ok l, s') ∧
    s'.interfaces = s.interfaces.insert name i' ∧ i'.leases = i.leases.erase l
  released : l.isStatic = false → ∀ now, ∃ s' i', s.release now l.hwAddr l.ip = (.ok l, s') ∧
    s'.interfaces = s.interfaces.insert name i' ∧ i'.leases = i.leases.erase l

lemma reaches_of_first (h : i.Sound) (hi : s.interfaces.get? name = some i) (hl : l ∈ i.leases)
    (hserves : i.serves l.ip) (hfirst : s.FirstAt name l.ip) : s.Reaches name i l := by
  have hfor : s.interfaceFor l.ip = .ok (name, i) := interfaceFor_of_first hi hserves hfirst
  have hlease : i.leaseByIp l.ip = some l := h.leaseByIp_eq hl
  refine ⟨?_, ?_, ?_, ?_⟩
  · simp only [leaseByIp, lookAt, hfor, Except.toOption, Option.bind_some, hlease]
  · simp only [hwByIp, lookAt, hfor, Except.toOption, Option.bind_some, Interface.hwByIp, hlease,
      Option.map_some]
  · intro now
    obtain ⟨i', hremove, hleases⟩ := h.removeLease_eq hl
    obtain ⟨s', heq, hinterfaces⟩ := changeLease_of_first (·.removeLease l) hfor hremove now
    exact ⟨s', i', heq, hinterfaces, hleases⟩
  · intro hdynamic now
    obtain ⟨i', hrelease, hleases⟩ := h.release_eq hl hdynamic
    obtain ⟨s', heq, hinterfaces⟩ :=
      changeLease_of_first (·.release l.hwAddr l.ip) hfor hrelease now
    exact ⟨s', i', heq, hinterfaces, hleases⟩

/-! ## The interface that holds a lease -/

/-- A configuration that is not in use describes no interfaces. -/
lemma enabled_of_interfacesOf {c : Config} (hi : (interfacesOf c).get? name = some i) :
    c.enabled = true := by
  by_contra hoff
  have hmem := SortedMap.mem_of_get?_ofList hi
  rw [if_pos (by simpa using hoff)] at hmem
  cases hmem

/-- The leases of an interface that has come about from a checked configuration are in its
subnets. -/
lemma serves_of_mem_leases {w : List (SiteKey × Pending)} (h : s.Tracked w)
    (hon : s.config.enabled = true) (hvalid : s.config.validate = .ok ())
    (hi : s.interfaces.get? name = some i) (hl : l ∈ i.leases) : i.serves l.ip := by
  obtain ⟨c, hc, hreach⟩ := h hi
  obtain ⟨hsound, hconfig⟩ := hreach.sound
  obtain ⟨scope, hs, hlookup⟩ := hsound.interface.exists_scope hl
  have hpool : c.pool? l.family = some scope.pool := Interface.pool?_of_scope? hconfig hs
  have hfamily : scope.pool.family = l.family := hsound.interface.family hs
  have hfits := (hsound.interface.scope hs).fits hlookup
  have hchecked : c.validate name = .ok () := Config.validate_interface hon hvalid hc
  have hallows := InterfaceConfig.allows_of_fits hchecked hpool hfamily hfits
  obtain ⟨p, hp, hsubnet, -⟩ := hallows.address
  obtain rfl := Option.some.inj (hpool.symm.trans hp)
  exact List.any_eq_true.2 ⟨scope, mem_scopes_of_scope? hs, hsubnet⟩

end Service

namespace Site

variable {c : Config} {disk : Disk} {now count : ℕ} {s₀ : Service} {x₀ x : Site}
  {w : List (SiteKey × Pending)}

/-- **Leases are reached by their addresses where subnets do not overlap.** Whatever has happened to
a service with a checked configuration, every lease is in a subnet of the interface that holds it.
Unless an interface with a lower name has the address in a subnet as well, the lease is found by it,
an operator can remove it, and if it is dynamic then its client can give it back. -/
theorem leases_reached (hstart : Service.start now c disk = .ok (count, s₀))
    (hx₀ : x₀.service = .ok s₀) (hrun : Runs (fun _ _ => True) (x₀, []) (x, w)) :
    ∃ s, x.service = .ok s ∧ ∀ name i l, s.interfaces.get? name = some i → l ∈ i.leases →
      i.serves l.ip ∧ (s.FirstAt name l.ip → s.Reaches name i l) := by
  have htracked₀ : s₀.Tracked [] := Service.Tracked.start hstart
  obtain ⟨interfaces, rfl, hrestored⟩ := Service.start_cases hstart
  obtain ⟨s, hx, hmoved⟩ := hrun.moved hx₀ htracked₀
  have htracked : s.Tracked w := htracked₀.moved hmoved
  refine ⟨s, hx, ?_⟩
  intro name i l hi hl
  -- an interface that is there has been there from the beginning
  have hon : c.enabled = true := by
    cases hbegun : (Service.interfacesOf c).get? name with
    | some i₀ => exact Service.enabled_of_interfacesOf hbegun
    | none =>
      rw [(hrestored.trans hmoved).absent hbegun] at hi
      cases hi
  have hvalid : c.validate = .ok () := (Service.start_eq_ok hstart).1
  have hserves : i.serves l.ip := by
    rw [← show s.config = c from hmoved.config] at hon hvalid
    exact Service.serves_of_mem_leases htracked hon hvalid hi hl
  refine ⟨hserves, ?_⟩
  intro hfirst
  exact Service.reaches_of_first (htracked.sound hi).interface hi hl hserves hfirst

/-- A lease on the second of two interfaces, which are in subnets of their own. -/
theorem exists_leases_reached : ∃ c : Config, ∃ s₀ s : Service, ∃ x : Site, ∃ i : Interface,
    ∃ l : Lease, Service.start 0 c (.ofFiles []) = .ok (0, s₀) ∧
      Runs (fun _ _ => True) (⟨0, c, .ok s₀⟩, []) (x, []) ∧ x.service = .ok s ∧
      s.interfaces.get? "eth1" = some i ∧ l ∈ i.leases ∧ s.FirstAt "eth1" l.ip ∧
      s.Reaches "eth1" i l := by
  let v4 : V4Config := ⟨.ofBytes 10 0 0 1, .ofBytes 255 255 255 0, .ofBytes 10 0 0 10,
    .ofBytes 10 0 0 20, 3600, true⟩
  let c : Config := { Config.default with
    interfaces := .ofList [("eth0", ⟨some v4, none⟩), ("eth1", ⟨some .default, none⟩)] }
  let l : Lease := .static (.v4 (.ofBytes 192 168 1 50)) ⟨[2, 0, 0, 0, 0, 1]⟩ "printer"
  let s₀ : Service := ⟨c, Service.interfacesOf c, .ofFiles [], false, none, none⟩
  let x₀ : Site := ⟨0, c, .ok s₀⟩
  let x : Site := (world.submit (.addLease l) x₀).2
  let i : Interface := ((Interface.ofConfig "eth1" ⟨some .default, none⟩ 1000).addLease l).2
  have hstart : Service.start 0 c (.ofFiles []) = .ok (0, s₀) := by decide +kernel
  have hrun : Runs (fun _ _ => True) (x₀, []) (x, []) :=
    .single ⟨.submit (.addLease l), trivial, .submit (.addLease l) x₀ []⟩
  obtain ⟨s, hx, hreached⟩ := leases_reached hstart rfl hrun
  have hs : s = (submitService 0 (.addLease l) s₀).2 := Except.ok.inj (hx.symm.trans rfl)
  have hi : s.interfaces.get? "eth1" = some i := by
    rw [hs]
    decide +kernel
  have hl : l ∈ i.leases := by decide +kernel
  have hothers : ∀ e ∈ s.interfaces.toList, compare e.1 "eth1" = .lt → ¬ e.2.serves l.ip := by
    rw [hs]
    decide +kernel
  have hfirst : s.FirstAt "eth1" l.ip := by
    intro other j hj hlower
    exact hothers (other, j) (SortedMap.mem_toList_iff.2 hj) hlower
  exact ⟨c, s₀, s, x, i, l, hstart, hrun, hx, hi, hl, hfirst, (hreached "eth1" i l hi hl).2 hfirst⟩

/-- Two interfaces are in one subnet. What a client has been granted on the second one is not found
by its address, and cannot be removed or given back. -/
theorem lease_out_of_reach : ∃ c : Config, ∃ s₀ s : Service, ∃ x : Site, ∃ i : Interface,
    ∃ l : Lease, Service.start 0 c (.ofFiles []) = .ok (0, s₀) ∧
      Runs (fun _ _ => True) (⟨0, c, .ok s₀⟩, []) (x, []) ∧ x.service = .ok s ∧
      s.interfaces.get? "eth1" = some i ∧ l ∈ i.leases ∧ l.isStatic = false ∧
      s.leaseByIp l.ip = none ∧ s.hwByIp l.ip = none ∧
      (s.removeLease 0 l).1 = .error (.notFound l.hwAddr l.ip) ∧
      (s.release 0 l.hwAddr l.ip).1 = .error (.notFound l.hwAddr l.ip) := by
  let first : V4Config := ⟨.ofBytes 10 0 0 1, .ofBytes 255 255 255 0, .ofBytes 10 0 0 10,
    .ofBytes 10 0 0 20, 3600, true⟩
  let second : V4Config := ⟨.ofBytes 10 0 0 2, .ofBytes 255 255 255 0, .ofBytes 10 0 0 30,
    .ofBytes 10 0 0 40, 3600, true⟩
  -- without probes the address is granted at once
  let c : Config := { Config.default with
    interfaces := .ofList [("eth0", ⟨some first, none⟩), ("eth1", ⟨some second, none⟩)]
    probeTimeoutMillis := 0 }
  let r : ClientRequest := ⟨⟨[2, 0, 0, 0, 0, 1]⟩, .v4, none, none, none⟩
  let s₀ : Service := ⟨c, Service.interfacesOf c, .ofFiles [], false, none, none⟩
  let s : Service := (submitService 0 (.allocate "eth1" r) s₀).2
  let x₀ : Site := ⟨0, c, .ok s₀⟩
  let x : Site := (world.submit (.allocate "eth1" r) x₀).2
  let i : Interface :=
    ((Interface.ofConfig "eth1" ⟨some second, none⟩ 0).submit 0 (.allocate r)).2
  let l : Lease := .dynamic (.ofMillis 0) (.v4 (.ofBytes 10 0 0 30)) r.client "" (.ofSeconds 3600)
  have hstart : Service.start 0 c (.ofFiles []) = .ok (0, s₀) := by decide +kernel
  have hwaiting : (world.submit (.allocate "eth1" r) x₀).1.suspend [] = [] := by decide +kernel
  have hstep := Step.submit (.allocate "eth1" r) x₀ []
  rw [hwaiting] at hstep
  exact ⟨c, s₀, s, x, i, l, hstart, .single ⟨_, trivial, hstep⟩, rfl, by decide +kernel⟩

end Site

end DhcpLeasing
