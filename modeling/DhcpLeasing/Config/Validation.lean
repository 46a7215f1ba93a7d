import DhcpLeasing.Config.Basic
import DhcpLeasing.Text.Blank

/-!
# Checking a configuration

The checks that a configuration in use has passed. Parts that are off are not checked. The first
fault found is reported: interfaces are looked at in the order of their names.
-/

namespace DhcpLeasing

/-- What can be wrong with an IPv4 range. -/
inductive V4Fault where
  | maskNotContiguous (mask : Ipv4)
  | gatewayUnset
  | rangeReversed
  | rangeOutsideSubnet (rangeStart rangeEnd : Ipv4)
  | gatewayInRange
  | zeroDuration
  deriving DecidableEq, Repr

/-- What can be wrong with an IPv6 range. -/
inductive V6Fault where
  | notUnicast (rangeStart : Ipv6)
  | zeroDuration
  deriving DecidableEq, Repr

/-- What can be wrong with a configuration. -/
inductive ConfigFault where
  | noDomain
  | noInterfaceName
  | v4 (interface : String) (fault : V4Fault)
  | v6 (interface : String) (fault : V6Fault)
  deriving DecidableEq, Repr

namespace Ipv4

/-- The number of ones at the left end. -/
def leadingOnes (a : Ipv4) : Nat :=
  ((List.range 32).takeWhile a.bits.getMsbD).length

/-- The number of zeros at the right end. -/
def trailingZeros (a : Ipv4) : Nat :=
  ((List.range 32).takeWhile fun i => !a.bits.getLsbD i).length

/-- A mask of ones, at least one, followed by zeros. -/
def isContiguousMask (mask : Ipv4) : Bool :=
  mask.bits != 0 && mask.leadingOnes + mask.trailingZeros == 32

end Ipv4

namespace Ipv6

/-- The address that stands for no address. -/
def isUnspecified (a : Ipv6) : Bool := a.bits == 0

/-- The address of the own host. -/
def isLoopback (a : Ipv6) : Bool := a.bits == 1

/-- An address of a group of hosts, whose first byte is `ff`. -/
def isMulticast (a : Ipv6) : Bool := a.bits >>> 120 == 0xff

end Ipv6

/-- Checks an IPv4 range. -/
def V4Config.validate (c : V4Config) : Except V4Fault Unit := do
  unless c.subnetMask.isContiguousMask do throw (.maskNotContiguous c.subnetMask)
  if c.gateway.bits = 0 then throw .gatewayUnset
  if c.rangeEnd.bits < c.rangeStart.bits then throw .rangeReversed
  unless c.inSubnet c.rangeStart && c.inSubnet c.rangeEnd do
    throw (.rangeOutsideSubnet c.rangeStart c.rangeEnd)
  if c.inRange c.gateway then throw .gatewayInRange
  if c.leaseSeconds = 0 then throw .zeroDuration

/-- Checks an IPv6 range. -/
def V6Config.validate (c : V6Config) : Except V6Fault Unit := do
  if c.rangeStart.isUnspecified || c.rangeStart.isLoopback || c.rangeStart.isMulticast then
    throw (.notUnicast c.rangeStart)
  if c.leaseSeconds = 0 then throw .zeroDuration

/-- Checks an interface. -/
def InterfaceConfig.validate (name : String) (c : InterfaceConfig) : Except ConfigFault Unit := do
  if (Text.trim name).isEmpty then throw .noInterfaceName
  if let some v4 := c.enabledV4 then v4.validate.mapError (.v4 name)
  if let some v6 := c.enabledV6 then v6.validate.mapError (.v6 name)

/-- Checks a configuration, unless it is off. -/
def Config.validate (c : Config) : Except ConfigFault Unit := do
  if c.enabled then
    if (Text.trim c.localDomain).isEmpty then throw .noDomain
    c.interfaces.toList.forM fun (name, interface) => interface.validate name

end DhcpLeasing
