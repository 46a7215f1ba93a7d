import DhcpLeasing.Address.Spelling
import DhcpLeasing.Config.Validation
import DhcpLeasing.Hostname
import DhcpLeasing.HwAddr
import DhcpLeasing.Text.Digits
import DhcpLeasing.Text.Quoted

/-!
# Why an operation is refused

Every refusal names its cause. The wording of all of them is here.
-/

namespace DhcpLeasing

open Text

/-- A change that would let two leases share an address, a client or a hostname, or take an
operator's lease away. -/
inductive Conflict where
  /-- The address is the client's own by a static lease, which a dynamic one may not replace. -/
  | staticallyLeased (ip : IpAddr) (holder : HwAddr)
  | addressLeased (ip : IpAddr) (holder : HwAddr)
  | clientHolds (client : HwAddr) (ip : IpAddr)
  | hostnameUsed (hostname : String) (ip : IpAddr)
  /-- The hostname a client asks for is another client's. -/
  | hostnameLeased (hostname : String) (holder : HwAddr)
  /-- A static lease does not expire, so it cannot be renewed. -/
  | renewalOfStatic (ip : IpAddr)
  deriving DecidableEq, Repr

/-- A request that cannot be meant as it stands. -/
inductive RequestFault where
  | hwAddr (fault : HwAddrFault)
  | hostname (fault : HostnameFault)
  | wrongFamily (ip : IpAddr) (family : Family)
  | outsideSubnet (ip : IpAddr)
  /-- The gateway, network or broadcast address, which nobody may hold. -/
  | keptAddress (ip : IpAddr)
  | outsideRange (ip : IpAddr)
  | noExpiry (ip : IpAddr)
  | familyOff (family : Family) (interface : String)
  | releaseOfStatic (ip : IpAddr) (client : HwAddr)
  | moveBetweenFamilies (old new : IpAddr)
  | unknownInterface (name : String)
  | unservedAddress (ip : IpAddr)
  | otherInterface (ip : IpAddr) (interface : String)
  deriving DecidableEq, Repr

/-- Why a client gets no address of a family. -/
inductive PoolOff where
  | familyOff (family : Family) (interface : String)
  | clientsChoose (family : Family) (interface : String)
  deriving DecidableEq, Repr

/-- Why an operation is refused. -/
inductive LeaseError where
  | invalidConfig (fault : ConfigFault)
  | conflict (cause : Conflict)
  | notFound (client : HwAddr) (ip : IpAddr)
  | poolExhausted
  | poolDisabled (cause : PoolOff)
  | invalidRequest (fault : RequestFault)
  | timeout
  /-- A file could not be read or written. -/
  | inputOutput
  /-- A text is not JSON, or not of the form that is needed. -/
  | unreadable
  deriving DecidableEq, Repr

/-! ## Wording -/

/-- What is said about a faulty hardware address. -/
def HwAddrFault.message : HwAddrFault → String
  | empty => "hardware address is empty"
  | badLength family length =>
    "bad " ++ family.name ++ " hardware address length " ++ String.ofList (decimal length)
  | malformed text => "bad hardware address " ++ quoted text

/-- What is said about a faulty hostname. -/
def HostnameFault.message : HostnameFault → String
  | tooLong name => "hostname " ++ quoted name ++ " is too long"
  | badLabel name label => "bad hostname " ++ quoted name ++ ": invalid label " ++ quoted label

/-- What is said about a faulty IPv4 part. -/
def V4Fault.message : V4Fault → String
  | maskNotContiguous mask => "subnet mask " ++ mask.toText ++ " is not contiguous"
  | gatewayUnset => "gateway_ip must be set"
  | rangeReversed => "range_start must be less than or equal to range_end"
  | rangeOutsideSubnet rangeStart rangeEnd =>
    "range " ++ rangeStart.toText ++ "-" ++ rangeEnd.toText ++ " is outside the gateway subnet"
  | gatewayInRange => "gateway_ip must not be within the range"
  | zeroDuration => "lease_duration_seconds must be greater than 0"

/-- What is said about a faulty IPv6 part. -/
def V6Fault.message : V6Fault → String
  | notUnicast rangeStart => "range_start " ++ rangeStart.toText ++ " is not a unicast address"
  | zeroDuration => "lease_duration_seconds must be greater than 0"

/-- What is said about a faulty configuration. -/
def ConfigFault.message : ConfigFault → String
  | noDomain => "local_domain_name must not be empty"
  | noInterfaceName => "interface name must not be empty"
  | v4 interface fault => interface ++ ": dhcpv4: " ++ fault.message
  | v6 interface fault => interface ++ ": dhcpv6: " ++ fault.message

/-- What is said about a conflict. -/
def Conflict.message : Conflict → String
  | staticallyLeased ip holder =>
    "address " ++ ip.toText ++ " is statically leased to " ++ holder.toText
  | addressLeased ip holder => "address " ++ ip.toText ++ " is already leased to " ++ holder.toText
  | clientHolds client ip =>
    "hardware address " ++ client.toText ++ " already holds " ++ ip.toText
  | hostnameUsed hostname ip =>
    "hostname " ++ quoted hostname ++ " is already used by " ++ ip.toText
  | hostnameLeased hostname holder =>
    "hostname " ++ quoted hostname ++ " is already leased to " ++ holder.toText
  | renewalOfStatic ip => "lease at " ++ ip.toText ++ " is static"

/-- What is said about a faulty request. -/
def RequestFault.message : RequestFault → String
  | hwAddr fault => fault.message
  | hostname fault => fault.message
  | wrongFamily ip family => "address " ++ ip.toText ++ " does not belong to " ++ family.name
  | outsideSubnet ip => "address " ++ ip.toText ++ " is outside the subnet"
  | keptAddress ip =>
    "address " ++ ip.toText ++ " is the gateway, network or broadcast address"
  | outsideRange ip => "dynamic lease address " ++ ip.toText ++ " is outside the range"
  | noExpiry ip => "dynamic lease " ++ ip.toText ++ " has no expiry"
  | familyOff family interface => family.name ++ " is not enabled on " ++ interface
  | releaseOfStatic ip client => "lease " ++ ip.toText ++ " for " ++ client.toText ++ " is static"
  | moveBetweenFamilies old new => "cannot move lease " ++ old.toText ++ " to " ++ new.toText
  | unknownInterface name => "unknown interface " ++ quoted name
  | unservedAddress ip => "no interface serves " ++ ip.toText
  | otherInterface ip interface => ip.toText ++ " is not on interface " ++ interface

/-- What is said about a pool that is off. -/
def PoolOff.message : PoolOff → String
  | familyOff family interface => family.name ++ " is not enabled on " ++ interface
  | clientsChoose family interface =>
    "stateful " ++ family.name ++ " assignment is off on " ++ interface ++ "; clients use SLAAC"

/-- The wording of a refusal. -/
def LeaseError.message : LeaseError → String
  | invalidConfig fault => "Invalid configuration: " ++ fault.message
  | conflict cause => "Lease conflict: " ++ cause.message
  | notFound client ip =>
    "Lease not found: no lease for " ++ client.toText ++ " at " ++ ip.toText
  | poolExhausted => "No available IP addresses in pool"
  | poolDisabled cause => "Address pool disabled: " ++ cause.message
  | invalidRequest fault => "Invalid request: " ++ fault.message
  | timeout => "Allocation timed out"
  | inputOutput => "IO error"
  | unreadable => "JSON error"

end DhcpLeasing
