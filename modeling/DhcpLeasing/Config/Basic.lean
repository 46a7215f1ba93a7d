import DhcpLeasing.Address.Basic
import DhcpLeasing.SortedMap
import DhcpLeasing.Time.Timestamp

/-!
# Configuration

What an operator sets up: the interfaces with the ranges they lease, and what holds for all of them.
-/

namespace DhcpLeasing

/-- What one interface leases to IPv4 clients. -/
structure V4Config where
  gateway : Ipv4
  subnetMask : Ipv4
  rangeStart : Ipv4
  rangeEnd : Ipv4
  leaseSeconds : UInt32
  enabled : Bool
  deriving DecidableEq, Repr

/-- What one interface leases to IPv6 clients. The flags say how clients may make up addresses of
their own: `slaacOnly` leaves all addresses to them. -/
structure V6Config where
  rangeStart : Ipv6
  leaseSeconds : UInt32
  slaacOnly : Bool
  slaacAllowed : Bool
  enabled : Bool
  deriving DecidableEq, Repr

/-- What one interface leases. -/
structure InterfaceConfig where
  v4 : Option V4Config
  v6 : Option V6Config
  deriving DecidableEq, Repr

/-- The whole configuration. A probe timeout of zero turns probing off, and an empty file name
turns saving off. -/
structure Config where
  enabled : Bool
  interfaces : SortedMap String InterfaceConfig
  localDomain : String
  probeTimeoutMillis : UInt64
  leasesFile : String
  saveIntervalMillis : UInt64
  deriving DecidableEq

namespace V4Config

/-- The default range, of a home network. -/
protected def default : V4Config where
  gateway := .ofBytes 192 168 1 1
  subnetMask := .ofBytes 255 255 255 0
  rangeStart := .ofBytes 192 168 1 100
  rangeEnd := .ofBytes 192 168 1 200
  leaseSeconds := 86400
  enabled := true

/-- Whether an address lies between the ends of the range. -/
def inRange (c : V4Config) (a : Ipv4) : Bool :=
  c.rangeStart.bits ≤ a.bits && a.bits ≤ c.rangeEnd.bits

/-- Whether an address lies in the subnet of the gateway. -/
def inSubnet (c : V4Config) (a : Ipv4) : Bool :=
  a.bits &&& c.subnetMask.bits == c.gateway.bits &&& c.subnetMask.bits

/-- The address of the subnet itself. -/
def network (c : V4Config) : Ipv4 :=
  ⟨c.gateway.bits &&& c.subnetMask.bits⟩

/-- The address of everyone in the subnet. -/
def broadcast (c : V4Config) : Ipv4 :=
  ⟨c.gateway.bits ||| ~~~c.subnetMask.bits⟩

/-- How long a lease lasts. -/
def leaseDuration (c : V4Config) : Duration :=
  .ofSeconds c.leaseSeconds.toNat

end V4Config

namespace V6Config

/-- The default range, which is off. -/
protected def default : V6Config where
  rangeStart := ⟨0xfd000000000000000000000000000100⟩
  leaseSeconds := 86400
  slaacOnly := false
  slaacAllowed := false
  enabled := false

/-- Whether the interface assigns addresses itself. -/
def isStateful (c : V6Config) : Bool :=
  !c.slaacOnly

/-- How long a lease lasts. -/
def leaseDuration (c : V6Config) : Duration :=
  .ofSeconds c.leaseSeconds.toNat

end V6Config

namespace InterfaceConfig

/-- The IPv4 part, when it is there and on. -/
def enabledV4 (c : InterfaceConfig) : Option V4Config :=
  c.v4.filter (·.enabled)

/-- The IPv6 part, when it is there and on. -/
def enabledV6 (c : InterfaceConfig) : Option V6Config :=
  c.v6.filter (·.enabled)

end InterfaceConfig

namespace Config

/-- The gap between two writes of the lease file where none is set: five seconds. -/
def defaultSaveInterval : UInt64 := 5000

/-- The configuration of a new deployment. -/
protected def default : Config where
  enabled := true
  interfaces := .ofList [("eth0", ⟨some .default, some .default⟩)]
  localDomain := "lan"
  probeTimeoutMillis := 1000
  leasesFile := "leases.json"
  saveIntervalMillis := defaultSaveInterval

end Config

end DhcpLeasing
