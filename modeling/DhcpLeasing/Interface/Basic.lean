import DhcpLeasing.LeaseTable

/-!
# Interfaces

An interface leases addresses of each family that is on: a scope per family, which is its pool with
the leases out of it.
-/

namespace DhcpLeasing

/-- What an interface leases in one family. -/
structure Scope where
  pool : AddressPool
  table : LeaseTable
  leaseDuration : Duration
  deriving DecidableEq

/-- The scope of a pool without leases. -/
def Scope.ofPool (pool : AddressPool) (leaseDuration : Duration) : Scope :=
  ⟨pool, .empty pool.family, leaseDuration⟩

/-- An interface with its leases. The probe timeout is in milliseconds; zero turns probing off. -/
structure Interface where
  name : String
  v4 : Option Scope
  v6 : Option Scope
  probeTimeout : Nat
  deriving DecidableEq

namespace Interface

/-- The interface that a configuration describes, without leases. -/
def ofConfig (name : String) (c : InterfaceConfig) (probeTimeout : Nat) : Interface where
  name := name
  v4 := c.enabledV4.map fun v4 => .ofPool (.ofV4 v4) v4.leaseDuration
  v6 := c.enabledV6.map fun v6 => .ofPool (.ofV6 v6) v6.leaseDuration
  probeTimeout := probeTimeout

/-- The scope of a family that is on. -/
def scope? (i : Interface) : Family → Option Scope
  | .v4 => i.v4
  | .v6 => i.v6

/-- The interface with another scope in a family. -/
def setScope (i : Interface) (scope : Scope) : Family → Interface
  | .v4 => { i with v4 := some scope }
  | .v6 => { i with v6 := some scope }

/-- The scopes of the families that are on, IPv4 first. -/
def scopes (i : Interface) : List Scope :=
  i.v4.toList ++ i.v6.toList

/-- How long leases of a family last. -/
def leaseDuration? (i : Interface) (family : Family) : Option Duration :=
  (i.scope? family).map (·.leaseDuration)

/-- Whether the address is in a subnet of the interface. -/
def serves (i : Interface) (ip : IpAddr) : Bool :=
  i.scopes.any (·.pool.inSubnet ip)

/-- The number of addresses to choose from in all families. -/
def windowSize (i : Interface) : Nat :=
  i.scopes.foldl (fun n scope => n + scope.pool.span) 0

/-! ## Looking up -/

/-- All leases, those of IPv4 first, each family in the order of the addresses. -/
def leases (i : Interface) : List Lease :=
  i.scopes.flatMap (·.table.leases)

/-- The lease for an address. -/
def leaseByIp (i : Interface) (ip : IpAddr) : Option Lease :=
  (i.scope? ip.family).bind (·.table.lookup ip)

/-- The lease of a client in a family. -/
def leaseByHw (i : Interface) (family : Family) (client : HwAddr) : Option Lease :=
  (i.scope? family).bind (·.table.lookupByHw client)

/-- The lease with a hostname, IPv4 first. -/
def leaseByHostname (i : Interface) (hostname : String) : Option Lease :=
  i.scopes.findSome? (·.table.lookupByHostname hostname)

/-- The hostname of the client that holds an address, if it has one. -/
def hostByIp (i : Interface) (ip : IpAddr) : Option String :=
  ((i.leaseByIp ip).map (·.hostname)).filter (!·.isEmpty)

/-- The client that holds an address. -/
def hwByIp (i : Interface) (ip : IpAddr) : Option HwAddr :=
  (i.leaseByIp ip).map (·.hwAddr)

/-- The address of the client with a hostname. -/
def ipByHost (i : Interface) (hostname : String) : Option IpAddr :=
  (i.leaseByHostname hostname).map (·.ip)

end Interface

end DhcpLeasing
