import DhcpLeasing.Proofs.Desk

/-!
# The leases of a configured interface

Whatever has happened on an interface with a checked configuration, its leases are such as the
configuration allows: they were when they were entered, each way in has checks of its own, and the
configuration is still the same.
-/

namespace DhcpLeasing

/-- The pool of a family that is on. -/
def InterfaceConfig.pool? (c : InterfaceConfig) : Family → Option AddressPool
  | .v4 => c.enabledV4.map .ofV4
  | .v6 => c.enabledV6.map .ofV6

/-- What a configuration says about single leases. -/
structure InterfaceConfig.Allows (c : InterfaceConfig) (l : Lease) : Prop where
  client : l.hwAddr.validateFor l.family = .ok ()
  /-- A lease without a hostname is among these, since the check accepts that as well. -/
  hostname : Hostname.validate l.hostname = .ok l.hostname
  address : ∃ p, c.pool? l.family = some p ∧ p.inSubnet l.ip ∧ p.isKept l.ip = false ∧
    (l.isStatic = false → p.contains l.ip)
  /-- The same in the words of the IPv4 range. -/
  addressV4 : ∀ {a}, l.ip = .v4 a → ∃ v4, c.enabledV4 = some v4 ∧ v4.inSubnet a ∧
    (a ≠ v4.gateway ∧ a ≠ v4.network ∧ a ≠ v4.broadcast) ∧ (l.isStatic = false → v4.inRange a)
  static : l.isStatic → l.expiresAt = none
  dynamic : l.isStatic = false → l.expiresAt.isSome

variable {c : InterfaceConfig} {f : Family} {p : AddressPool} {l : Lease} {name : String}

/-- The pools of an interface are still those that it was configured with. -/
lemma Interface.pool?_of_scope? {i : Interface} {s : Scope} {probeTimeout : ℕ}
    (hi : i.emptied = .ofConfig name c probeTimeout) (hs : i.scope? f = some s) :
    c.pool? f = some s.pool := by
  have hscope : (ofConfig name c probeTimeout).scope? f = some (.ofPool s.pool s.leaseDuration) := by
    rw [← hi, emptied, scope?_mapScopes, hs, Option.map_some]
  cases f with
  | v4 =>
    obtain ⟨v4, hv4, heq⟩ := Option.map_eq_some_iff.1 hscope
    have hpool : AddressPool.ofV4 v4 = s.pool := congrArg (·.pool) heq
    rw [InterfaceConfig.pool?, hv4, Option.map_some, hpool]
  | v6 =>
    obtain ⟨v6, hv6, heq⟩ := Option.map_eq_some_iff.1 hscope
    have hpool : AddressPool.ofV6 v6 = s.pool := congrArg (·.pool) heq
    rw [InterfaceConfig.pool?, hv6, Option.map_some, hpool]

/-- In a checked configuration the addresses of dynamic leases are in the subnet. -/
lemma InterfaceConfig.inSubnet_of_contains {ip : IpAddr} (hc : c.validate name = .ok ())
    (hp : c.pool? f = some p) (hip : p.contains ip) : p.inSubnet ip ∧ p.isKept ip = false := by
  cases f with
  | v4 =>
    obtain ⟨v4, hv4, rfl⟩ := Option.map_eq_some_iff.1 hp
    exact AddressPool.ofV4_inSubnet_of_contains (validate_v4 hc hv4) hip
  | v6 =>
    obtain ⟨v6, -, rfl⟩ := Option.map_eq_some_iff.1 hp
    exact AddressPool.ofV6_inSubnet_of_contains hip

/-- A lease that fits the pool of its family is one that a checked configuration allows. -/
lemma InterfaceConfig.allows_of_fits (hc : c.validate name = .ok ())
    (hp : c.pool? l.family = some p) (hfamily : p.family = l.family) (h : p.Fits l) :
    c.Allows l := by
  -- static leases have been checked against the subnet, dynamic ones against the range inside it
  have haddress : p.inSubnet l.ip ∧ p.isKept l.ip = false := by
    cases hstatic : l.isStatic with
    | true => exact (AddressPool.checkStatic_eq_ok_iff.1 (h.static hstatic).1).2
    | false => exact inSubnet_of_contains hc hp (h.dynamic hstatic).1
  have hcontains : l.isStatic = false → p.contains l.ip := fun hdynamic => (h.dynamic hdynamic).1
  refine ⟨hfamily ▸ h.client, h.hostname, ⟨p, hp, haddress.1, haddress.2, hcontains⟩, ?_, ?_, ?_⟩
  · intro a ha
    rw [Lease.family, ha] at hp
    obtain ⟨v4, hv4, rfl⟩ := Option.map_eq_some_iff.1 hp
    rw [ha, AddressPool.inSubnet_ofV4] at haddress
    rw [ha, AddressPool.contains_ofV4, AddressPool.inDynamicRange_ofV4] at hcontains
    have hkept : a ≠ v4.gateway ∧ a ≠ v4.network ∧ a ≠ v4.broadcast := by
      simpa [AddressPool.isKept, AddressPool.ofV4] using haddress.2
    exact ⟨v4, hv4, haddress.1, hkept, fun hdynamic => (hcontains hdynamic).1⟩
  · intro hstatic
    exact (h.static hstatic).2
  · intro hdynamic
    exact (h.dynamic hdynamic).2

namespace Desk

/-- **Leases fit their interface.** Whatever has happened on an interface of a configuration in use,
with any allocations under way, its leases are such as the configuration allows. -/
theorem leases_allowed {config : Config} {name : String} {c : InterfaceConfig} {probeTimeout : ℕ}
    {d : Desk} {l : Lease} (hon : config.enabled = true) (hvalid : config.validate = .ok ())
    (hc : config.interfaces.get? name = some c)
    (hd : Reachable (.ofConfig name c probeTimeout) d) (hl : l ∈ d.interface.leases) :
    c.Allows l := by
  obtain ⟨hsound, hconfig⟩ := hd.sound
  obtain ⟨f, s, hs, hl⟩ := Interface.mem_leases_iff.1 hl
  have hscope : s.Sound := hsound.interface.scope hs
  have hfamily : s.pool.family = f := hsound.interface.family hs
  have hlookup : s.table.lookup l.ip = some l := hscope.table.mem_leases_iff.1 hl
  have hlfamily : l.family = f := by
    rw [Lease.family, hscope.table.family_eq hlookup, hscope.family, hfamily]
  have hpool : c.pool? f = some s.pool := Interface.pool?_of_scope? hconfig hs
  have hvalid : c.validate name = .ok () := Config.validate_interface hon hvalid hc
  rw [← hlfamily] at hpool hfamily
  exact InterfaceConfig.allows_of_fits hvalid hpool hfamily (hscope.fits hlookup)

/-- A client of the default configuration gets an address that nothing answers for. -/
theorem exists_lease_allowed : ∃ d l,
    Reachable (.ofConfig "eth0" ⟨some .default, some .default⟩ 1000) d ∧
      l ∈ d.interface.leases ∧ InterfaceConfig.Allows ⟨some .default, some .default⟩ l := by
  let i : Interface := .ofConfig "eth0" ⟨some .default, some .default⟩ 1000
  let request : Request := ⟨⟨[2, 0, 0, 0, 0, 1]⟩, .v4, none, none, none⟩
  let p : Pending := ⟨i.claim request, .v4 (.ofBytes 192 168 1 100), [], 7, 1⟩
  let i' := (i.begin 0 request).2
  have hprobing : settle [] (i.begin 0 request) = ⟨i', [] ++ p :: []⟩ := rfl
  have hbegin : Step ⟨i, []⟩ ⟨i', [] ++ p :: []⟩ := hprobing ▸ .move (.begin 0 request i [])
  have hresume : Step ⟨i', [] ++ p :: []⟩ (settle ([] ++ []) (i'.resume 0 p false)) :=
    .move (.resume 0 false i' p [] [])
  have hreach : Reachable i (settle ([] ++ []) (i'.resume 0 p false)) :=
    (Relation.ReflTransGen.single hbegin).tail hresume
  have hlease : .dynamic (.ofMillis 0) p.ip request.client "" (.ofSeconds 86400) ∈
      (settle ([] ++ []) (i'.resume 0 p false)).interface.leases := by decide +kernel
  have hon : Config.default.enabled = true := rfl
  have hvalid : Config.default.validate = .ok () := by decide +kernel
  have hc : Config.default.interfaces.get? "eth0" = some ⟨some .default, some .default⟩ := by
    decide +kernel
  exact ⟨_, _, hreach, hlease, leases_allowed hon hvalid hc hreach hlease⟩

end Desk

end DhcpLeasing
