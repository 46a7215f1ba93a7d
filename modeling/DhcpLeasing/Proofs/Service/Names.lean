import DhcpLeasing.Proofs.Service.LocalDomain
import DhcpLeasing.Proofs.Service.Runs

/-!
# Resolving hostnames

Which lease a name resolves to:

* every lease has its hostname in normal form, so the interfaces find a lease under its hostname in
  any letter case, and under no other name: `Tracked.firstNamed_eq_some`, `exists_firstNamed_iff`;
* before a name is looked up, the local domain comes off it. So a name in the local domain resolves
  as the hostname in front of the domain does, provided that the domain is a single label;
* a lease may have a hostname that ends in the local domain itself, and is then not found by it.
-/

namespace DhcpLeasing

open Text

/-- A checked hostname is ASCII and in lowercase. -/
lemma Hostname.normal_of_validate {name : String} (h : validate name = .ok name) :
    (∀ c ∈ name.toList, c.toNat < 0x80) ∧ lowercase name = name := by
  obtain ⟨hname, hempty | hchecked⟩ := validate_eq_ok_iff.1 h
  · subst hempty
    exact ⟨by simp, rfl⟩
  · have hascii : ∀ c ∈ name.toList, c.toNat < 0x80 := fun c hc =>
      (ascii_of_char (hchecked.char hc)).1
    refine ⟨hascii, lowercase_of_ascii hascii ?_⟩
    intro c hc
    rw [hname] at hc
    exact isUpper_of_mem_lowercase hc

namespace Interface

variable {i : Interface} {s : Scope} {l : Lease} {name : String}

/-! ## Leases of an interface -/

lemma exists_scope?_of_mem (hs : s ∈ i.scopes) : ∃ f, i.scope? f = some s := by
  rw [scopes, List.mem_append, Option.mem_toList, Option.mem_toList] at hs
  rcases hs with hs | hs
  · exact ⟨.v4, hs⟩
  · exact ⟨.v6, hs⟩

lemma Sound.mem_of_leaseByIp (h : i.Sound) {ip : IpAddr} (hl : i.leaseByIp ip = some l) :
    l ∈ i.leases ∧ l.ip = ip := by
  obtain ⟨s, hs, hlookup⟩ := Option.bind_eq_some_iff.1 hl
  have hip : l.ip = ip := (h.scope hs).table.ip_eq hlookup
  refine ⟨mem_leases_iff.2 ⟨_, s, hs, ?_⟩, hip⟩
  rwa [(h.scope hs).table.mem_leases_iff, hip]

/-- What is found under a hostname is a lease with that hostname. -/
lemma Sound.leaseByHostname_eq_some (h : i.Sound) (hfound : i.leaseByHostname name = some l) :
    l ∈ i.leases ∧ lowercase l.hostname = lowercase name := by
  obtain ⟨s, hs, hlookup⟩ := List.exists_of_findSome?_eq_some hfound
  obtain ⟨f, hs⟩ := exists_scope?_of_mem hs
  have hname : name ≠ "" := by
    rintro rfl
    cases hlookup
  obtain ⟨hl, -, heq⟩ := ((h.scope hs).table.lookupByHostname_eq_some_iff hname).1 hlookup
  exact ⟨mem_leases_iff.2 ⟨f, s, hs, (h.scope hs).table.mem_leases_iff.2 hl⟩, heq⟩

/-- Something is found under the hostname of a lease, in whatever case it is given. -/
lemma Sound.leaseByHostname_isSome (h : i.Sound) (hl : l ∈ i.leases) (hname : name ≠ "")
    (heq : lowercase l.hostname = lowercase name) : (i.leaseByHostname name).isSome := by
  obtain ⟨f, s, hs, hl⟩ := mem_leases_iff.1 hl
  have hlookup := (h.scope hs).table.mem_leases_iff.1 hl
  have hnamed : l.hostname ≠ "" := by
    rwa [Ne, ← lowercase_eq_empty_iff, heq, lowercase_eq_empty_iff]
  apply List.findSome?_isSome_iff.2
  refine ⟨s, Service.mem_scopes_of_scope? hs, ?_⟩
  rw [((h.scope hs).table.lookupByHostname_eq_some_iff hname).2 ⟨hlookup, hnamed, heq⟩]
  rfl

end Interface

namespace Service

variable {s : Service} {w : List (SiteKey × Pending)} {l m : Lease} {c : Config}
  {hostname name : String}

/-! ## Leases of a service -/

lemma mem_leases_iff :
    l ∈ s.leases ↔ ∃ name i, s.interfaces.get? name = some i ∧ l ∈ i.leases := by
  rw [leases, List.mem_flatMap]
  constructor
  · rintro ⟨i, hi, hl⟩
    obtain ⟨name, hi⟩ := SortedMap.mem_values_iff.1 hi
    exact ⟨name, i, hi, hl⟩
  · rintro ⟨name, i, hi, hl⟩
    exact ⟨i, mem_values_of_get? hi, hl⟩

lemma Tracked.validate_hostname (h : s.Tracked w) (hl : l ∈ s.leases) :
    Hostname.validate l.hostname = .ok l.hostname := by
  obtain ⟨name, i, hi, hl⟩ := mem_leases_iff.1 hl
  obtain ⟨scope, hs, hlookup⟩ := (h.sound hi).interface.exists_scope hl
  exact (((h.sound hi).interface.scope hs).fits hlookup).hostname

/-- The first lease with a hostname as it is given, by the names of the interfaces. -/
def firstNamed (s : Service) (hostname : String) : Option Lease :=
  s.interfaces.values.findSome? (·.leaseByHostname hostname)

lemma Tracked.firstNamed_eq_some (h : s.Tracked w) (hfound : s.firstNamed name = some l) :
    l ∈ s.leases ∧ l.hostname = lowercase name := by
  obtain ⟨i, hi, hfound⟩ := List.exists_of_findSome?_eq_some hfound
  obtain ⟨key, hi⟩ := SortedMap.mem_values_iff.1 hi
  obtain ⟨hl, heq⟩ := (h.sound hi).interface.leaseByHostname_eq_some hfound
  have hmem : l ∈ s.leases := mem_leases_iff.2 ⟨key, i, hi, hl⟩
  refine ⟨hmem, ?_⟩
  rw [← heq, (Hostname.normal_of_validate (h.validate_hostname hmem)).2]

/-- A hostname is found exactly if some lease has it. -/
lemma Tracked.exists_firstNamed_iff (h : s.Tracked w) (hname : name ≠ "") :
    (∃ l, s.firstNamed name = some l) ↔ ∃ l ∈ s.leases, l.hostname = lowercase name := by
  constructor
  · rintro ⟨l, hfound⟩
    exact ⟨l, h.firstNamed_eq_some hfound⟩
  · rintro ⟨l, hmem, heq⟩
    obtain ⟨key, i, hi, hl⟩ := mem_leases_iff.1 hmem
    rw [← (Hostname.normal_of_validate (h.validate_hostname hmem)).2] at heq
    have hsome := (h.sound hi).interface.leaseByHostname_isSome hl hname heq
    rw [← Option.isSome_iff_exists, firstNamed, List.findSome?_isSome_iff]
    exact ⟨i, mem_values_of_get? hi, hsome⟩

/-- A client that is named for an address has a lease for it. -/
lemma Tracked.hostByIp_eq_some (h : s.Tracked w) {ip : IpAddr}
    (hfound : s.hostByIp ip = some hostname) :
    hostname ≠ "" ∧ ∃ l ∈ s.leases, l.ip = ip ∧ l.hostname = hostname := by
  obtain ⟨⟨key, i⟩, hfor, hhost⟩ := Option.bind_eq_some_iff.1 hfound
  have hi : s.interfaces.get? key = some i := by
    cases hserves : s.interfaceFor ip with
    | error e =>
      rw [hserves] at hfor
      cases hfor
    | ok entry =>
      rw [hserves] at hfor
      obtain rfl : entry = (key, i) := Option.some.inj hfor
      exact interfaceFor_eq_ok hserves
  obtain ⟨hmap, hne⟩ := Option.filter_eq_some_iff.1 hhost
  obtain ⟨l, hl, rfl⟩ := Option.map_eq_some_iff.1 hmap
  obtain ⟨hl, hip⟩ := (h.sound hi).interface.mem_of_leaseByIp hl
  exact ⟨by simpa using hne, l, mem_leases_iff.2 ⟨key, i, hi, hl⟩, hip, rfl⟩

/-! ## What names resolve to -/

/-- The local domain comes off a name before it is looked up. -/
lemma leaseByHostname_eq (s : Service) (name : String) :
    s.leaseByHostname name = s.firstNamed (stripDomain s.config.localDomain name) := rfl

/-- What it means that a lease with a hostname is found by a name, and so is its address. -/
def Resolves (s : Service) (name hostname : String) : Prop :=
  ∃ m ∈ s.leases, m.hostname = hostname ∧ s.leaseByHostname name = some m ∧
    s.ipByHost name = some m.ip

/-- A hostname is what it is in lowercase when given in any letter case. -/
lemma Tracked.lowercase_eq (h : s.Tracked w) (hl : l ∈ s.leases)
    (hsame : SameLetters name l.hostname) : lowercase name = l.hostname := by
  obtain ⟨hascii, hlower⟩ := Hostname.normal_of_validate (h.validate_hostname hl)
  rw [hsame.lowercase_eq hascii, hlower]

/-- The hostname of a lease resolves, unless the local domain comes off it. -/
lemma Tracked.resolves_of_not (h : s.Tracked w) (hl : l ∈ s.leases) (hne : l.hostname ≠ "")
    (hsame : SameLetters name l.hostname)
    (hnot : ¬ ∃ hostname, s.config.Qualifies hostname name) : s.Resolves name l.hostname := by
  have hlower : lowercase name = l.hostname := h.lowercase_eq hl hsame
  have hname : name ≠ "" := by
    rwa [Ne, ← lowercase_eq_empty_iff, hlower]
  obtain ⟨m, hfound⟩ := (h.exists_firstNamed_iff hname).2 ⟨l, hl, hlower.symm⟩
  obtain ⟨hm, hhostname⟩ := h.firstNamed_eq_some hfound
  have hlease : s.leaseByHostname name = some m := by
    rw [leaseByHostname_eq, stripDomain_of_not hnot, hfound]
  refine ⟨m, hm, hhostname.trans hlower, hlease, ?_⟩
  rw [ipByHost, hlease, Option.map_some]

/-- What is found once the local domain is off has a shorter hostname. -/
lemma Tracked.not_resolves_of_qualifies (h : s.Tracked w) (hl : l ∈ s.leases)
    (hsame : SameLetters name l.hostname) (hqualifies : s.config.Qualifies hostname name) :
    ¬ s.Resolves name l.hostname := by
  rintro ⟨m, -, hhostname, hfound, -⟩
  rw [leaseByHostname_eq, stripDomain_of_qualifies hqualifies] at hfound
  have hcut : lowercase hostname = l.hostname := by
    rw [← (h.firstNamed_eq_some hfound).2, hhostname]
  obtain ⟨suffix, -, rfl⟩ := hqualifies.name_eq
  have hascii := hsame.ascii (Hostname.normal_of_validate (h.validate_hostname hl)).1
  have hascii' : ∀ c ∈ hostname.toList, c.toNat < 0x80 := by
    intro c hc
    exact hascii c (by simp [hc])
  rw [← h.lowercase_eq hl hsame, lowercase, lowercase, lowerFrom_of_ascii hascii,
    lowerFrom_of_ascii hascii'] at hcut
  have hlength := congrArg (·.toList.length) hcut
  simp at hlength

end Service

namespace Site

variable {c : Config} {disk : Disk} {now count : ℕ} {s₀ : Service} {x₀ x : Site}
  {w : List (SiteKey × Pending)}

/-- A service that has been up since it was started is up, with its configuration, and its
interfaces have come about from it. -/
lemma Runs.tracked (hstart : Service.start now c disk = .ok (count, s₀))
    (hx₀ : x₀.service = .ok s₀) (hrun : Runs (fun _ _ => True) (x₀, []) (x, w)) :
    ∃ s, x.service = .ok s ∧ s.config = c ∧ s.Tracked w := by
  have htracked₀ : s₀.Tracked [] := Service.Tracked.start hstart
  obtain ⟨interfaces, rfl, -⟩ := Service.start_cases hstart
  obtain ⟨s, hx, hmoved⟩ := hrun.moved hx₀ htracked₀
  exact ⟨s, hx, hmoved.config, htracked₀.moved hmoved⟩

/-- **Hostnames resolve, unless the local domain is taken off them.** Whatever has happened to a
service with a checked configuration, a client that is named for an address has a lease for it under
that hostname. In any letter case a hostname finds a lease with it, and the address of that, exactly
if it is not itself a name in the local domain. If it is, then what is found is the lease with the
hostname in front of the domain. -/
theorem hostnames_resolve (hstart : Service.start now c disk = .ok (count, s₀))
    (hx₀ : x₀.service = .ok s₀) (hrun : Runs (fun _ _ => True) (x₀, []) (x, w)) :
    ∃ s, x.service = .ok s ∧
      (∀ ip hostname, s.hostByIp ip = some hostname →
        hostname ≠ "" ∧ ∃ l ∈ s.leases, l.ip = ip ∧ l.hostname = hostname) ∧
      ∀ l ∈ s.leases, l.hostname ≠ "" → ∀ name, SameLetters name l.hostname →
        (s.Resolves name l.hostname ↔ ¬ ∃ hostname, c.Qualifies hostname name) ∧
        ∀ hostname, c.Qualifies hostname name →
          s.leaseByHostname name = s.firstNamed hostname := by
  obtain ⟨s, hx, rfl, htracked⟩ := hrun.tracked hstart hx₀
  refine ⟨s, hx, fun ip hostname => htracked.hostByIp_eq_some, ?_⟩
  intro l hl hne name hsame
  refine ⟨⟨?_, htracked.resolves_of_not hl hne hsame⟩, ?_⟩
  · rintro hresolves ⟨hostname, hqualifies⟩
    exact htracked.not_resolves_of_qualifies hl hsame hqualifies hresolves
  · intro hostname hqualifies
    rw [Service.leaseByHostname_eq, Service.stripDomain_of_qualifies hqualifies]

/-- A static lease whose hostname has a dot, asked for in another letter case. -/
theorem exists_hostname_resolves : ∃ c : Config, ∃ s₀ s : Service, ∃ x : Site, ∃ l : Lease,
    Service.start 0 c (.ofFiles []) = .ok (0, s₀) ∧
      Runs (fun _ _ => True) (⟨0, c, .ok s₀⟩, []) (x, []) ∧ x.service = .ok s ∧ l ∈ s.leases ∧
      l.hostname = "printer.office" ∧ s.Resolves "Printer.OFFICE" "printer.office" := by
  let c : Config := { Config.default with
    interfaces := .ofList [("eth0", ⟨some .default, none⟩)] }
  let l : Lease := .static (.v4 (.ofBytes 192 168 1 50)) ⟨[2, 0, 0, 0, 0, 1]⟩ "printer.office"
  let s₀ : Service := ⟨c, Service.interfacesOf c, .ofFiles [], false, none, none⟩
  let x₀ : Site := ⟨0, c, .ok s₀⟩
  let x : Site := (world.submit (.addLease l) x₀).2
  have hstart : Service.start 0 c (.ofFiles []) = .ok (0, s₀) := by decide +kernel
  have hrun : Runs (fun _ _ => True) (x₀, []) (x, []) :=
    .single ⟨.submit (.addLease l), trivial, .submit (.addLease l) x₀ []⟩
  obtain ⟨s, hx, -, hresolve⟩ := hostnames_resolve hstart rfl hrun
  have hs : s = (submitService 0 (.addLease l) s₀).2 := Except.ok.inj (hx.symm.trans rfl)
  have hl : l ∈ s.leases := by
    rw [hs]
    decide +kernel
  have hsame : SameLetters "Printer.OFFICE" l.hostname := by
    unfold SameLetters
    decide +kernel
  have hnot : ¬ ∃ hostname, c.Qualifies hostname "Printer.OFFICE" := by
    rw [Service.exists_qualifies_iff]
    decide +kernel
  have hfound := (hresolve l hl (by decide) "Printer.OFFICE" hsame).1.2 hnot
  exact ⟨c, s₀, s, x, l, hstart, hrun, hx, hl, rfl, hfound⟩

/-- A client calls itself by a name in the local domain. It is named so for its address, and then
neither its lease nor its address is found under that name. -/
theorem hostname_not_found : ∃ c : Config, ∃ s₀ s : Service, ∃ x : Site, ∃ l : Lease,
    Service.start 0 c (.ofFiles []) = .ok (0, s₀) ∧
      Runs (fun _ _ => True) (⟨0, c, .ok s₀⟩, []) (x, []) ∧ x.service = .ok s ∧ l ∈ s.leases ∧
      l.hostname = "printer.lan" ∧ s.hostByIp l.ip = some "printer.lan" ∧
      s.leaseByHostname "printer.lan" = none ∧ s.ipByHost "printer.lan" = none := by
  -- without probes the address is granted at once
  let c : Config := { Config.default with
    interfaces := .ofList [("eth0", ⟨some .default, none⟩)], probeTimeoutMillis := 0 }
  let r : ClientRequest := ⟨⟨[2, 0, 0, 0, 0, 1]⟩, .v4, none, some "printer.lan", none⟩
  let s₀ : Service := ⟨c, Service.interfacesOf c, .ofFiles [], false, none, none⟩
  let s : Service := (submitService 0 (.allocate "eth0" r) s₀).2
  let x₀ : Site := ⟨0, c, .ok s₀⟩
  let x : Site := (world.submit (.allocate "eth0" r) x₀).2
  let l : Lease := .dynamic (.ofMillis 0) (.v4 (.ofBytes 192 168 1 100)) r.client "printer.lan"
    V4Config.default.leaseDuration
  have hstart : Service.start 0 c (.ofFiles []) = .ok (0, s₀) := by decide +kernel
  have hwaiting : (world.submit (.allocate "eth0" r) x₀).1.suspend [] = [] := by decide +kernel
  have hstep := Step.submit (.allocate "eth0" r) x₀ []
  rw [hwaiting] at hstep
  exact ⟨c, s₀, s, x, l, hstart, .single ⟨_, trivial, hstep⟩, rfl, by decide +kernel⟩

/-- **A name with the local domain finds what the name without it does, if the domain is a single
label.** A domain of several labels is not taken off, in whatever state the service is: the name is
looked up as it is. -/
theorem domain_accepted (hstart : Service.start now c disk = .ok (count, s₀))
    (hx₀ : x₀.service = .ok s₀) (hrun : Runs (fun _ _ => True) (x₀, []) (x, w)) :
    ∃ s, x.service = .ok s ∧ ∀ hostname suffix, hostname ≠ "" → c.domain ≠ "" →
      SameLetters suffix c.domain →
      ('.' ∉ c.domain.toList →
        s.leaseByHostname (hostname ++ "." ++ suffix) = s.firstNamed hostname) ∧
      ('.' ∈ c.domain.toList →
        s.leaseByHostname (hostname ++ "." ++ suffix) =
          s.firstNamed (hostname ++ "." ++ suffix)) := by
  obtain ⟨s, hx, rfl, -⟩ := hrun.tracked hstart hx₀
  refine ⟨s, hx, ?_⟩
  intro hostname suffix hhostname hdomain hsame
  constructor
  · intro hlabel
    rw [Service.leaseByHostname_eq,
      Service.stripDomain_of_qualifies ⟨hhostname, hdomain, hlabel, suffix, hsame, rfl⟩]
  · intro hlabels
    have hnot : ¬ ∃ other, s.config.Qualifies other (hostname ++ "." ++ suffix) := by
      rintro ⟨other, hqualifies⟩
      exact hqualifies.label hlabels
    rw [Service.leaseByHostname_eq, Service.stripDomain_of_not hnot]

/-- A domain of one label, in uppercase. -/
theorem exists_domain_accepted : ∃ c : Config, ∃ s₀ s : Service, ∃ x : Site, ∃ l : Lease,
    Service.start 0 c (.ofFiles []) = .ok (0, s₀) ∧
      Runs (fun _ _ => True) (⟨0, c, .ok s₀⟩, []) (x, []) ∧ x.service = .ok s ∧ l ∈ s.leases ∧
      s.leaseByHostname ("nas" ++ "." ++ "LAN") = some l := by
  let c : Config := { Config.default with
    interfaces := .ofList [("eth0", ⟨some .default, none⟩)] }
  let l : Lease := .static (.v4 (.ofBytes 192 168 1 50)) ⟨[2, 0, 0, 0, 0, 1]⟩ "nas"
  let s₀ : Service := ⟨c, Service.interfacesOf c, .ofFiles [], false, none, none⟩
  let x₀ : Site := ⟨0, c, .ok s₀⟩
  let x : Site := (world.submit (.addLease l) x₀).2
  have hstart : Service.start 0 c (.ofFiles []) = .ok (0, s₀) := by decide +kernel
  have hrun : Runs (fun _ _ => True) (x₀, []) (x, []) :=
    .single ⟨.submit (.addLease l), trivial, .submit (.addLease l) x₀ []⟩
  obtain ⟨s, hx, haccepted⟩ := domain_accepted hstart rfl hrun
  have hs : s = (submitService 0 (.addLease l) s₀).2 := Except.ok.inj (hx.symm.trans rfl)
  have hsame : SameLetters "LAN" c.domain := by
    unfold SameLetters
    decide +kernel
  have hfound := (haccepted "nas" "LAN" (by decide) (by decide +kernel) hsame).1 (by decide +kernel)
  have hnamed : l ∈ s.leases ∧ s.firstNamed "nas" = some l := by
    rw [hs]
    decide +kernel
  exact ⟨c, s₀, s, x, l, hstart, hrun, hx, hnamed.1, hfound.trans hnamed.2⟩

/-- With a domain of two labels, a lease is found under its hostname and not under the hostname with
the domain. -/
theorem domain_not_accepted : ∃ c : Config, ∃ s₀ s : Service, ∃ x : Site, ∃ l : Lease,
    Service.start 0 c (.ofFiles []) = .ok (0, s₀) ∧
      Runs (fun _ _ => True) (⟨0, c, .ok s₀⟩, []) (x, []) ∧ x.service = .ok s ∧ l ∈ s.leases ∧
      c.domain = "home.arpa" ∧ s.firstNamed "nas" = some l ∧
      s.leaseByHostname "nas.home.arpa" = none := by
  let c : Config := { Config.default with
    interfaces := .ofList [("eth0", ⟨some .default, none⟩)], localDomain := "home.arpa" }
  let l : Lease := .static (.v4 (.ofBytes 192 168 1 50)) ⟨[2, 0, 0, 0, 0, 1]⟩ "nas"
  let s₀ : Service := ⟨c, Service.interfacesOf c, .ofFiles [], false, none, none⟩
  let s : Service := (submitService 0 (.addLease l) s₀).2
  let x₀ : Site := ⟨0, c, .ok s₀⟩
  let x : Site := (world.submit (.addLease l) x₀).2
  have hstart : Service.start 0 c (.ofFiles []) = .ok (0, s₀) := by decide +kernel
  have hstep := Step.submit (.addLease l) x₀ []
  exact ⟨c, s₀, s, x, l, hstart, .single ⟨_, trivial, hstep⟩, rfl, by decide +kernel⟩

end Site

end DhcpLeasing
