import DhcpLeasing.HwAddr
import DhcpLeasing.Time.Timestamp

/-!
# Leases

A lease binds one address to one hardware address. A static lease is an operator's and never
expires; a dynamic lease has an expiry.
-/

namespace DhcpLeasing

/-- A binding of an address to a client. The hostname is empty when the client has none. -/
structure Lease where
  ip : IpAddr
  hwAddr : HwAddr
  hostname : String
  expiresAt : Option Timestamp
  isStatic : Bool
  deriving DecidableEq, Repr

namespace Lease

/-- A static lease. -/
def static (ip : IpAddr) (hwAddr : HwAddr) (hostname : String) : Lease :=
  ⟨ip, hwAddr, hostname, none, true⟩

/-- A dynamic lease that starts at `now`. -/
def dynamic (now : Timestamp) (ip : IpAddr) (hwAddr : HwAddr) (hostname : String) (d : Duration) :
    Lease :=
  ⟨ip, hwAddr, hostname, some (now.expiryAfter d), false⟩

/-- The family of the address. -/
def family (l : Lease) : Family :=
  l.ip.family

/-- Whether a dynamic lease has expired at a time. -/
def isExpiredAt (t : Timestamp) (l : Lease) : Bool :=
  !l.isStatic && l.expiresAt.any (· ≤ t)

/-- Starts a dynamic lease anew at `now`. A static lease stays as it is. -/
def renew (now : Timestamp) (d : Duration) (l : Lease) : Lease :=
  if l.isStatic then l else { l with expiresAt := some (now.expiryAfter d) }

/-- The whole seconds left until the lease expires, if it does. -/
def remainingSeconds (now : Timestamp) (l : Lease) : Option Nat :=
  l.expiresAt.map now.secondsLeft

end Lease

end DhcpLeasing
