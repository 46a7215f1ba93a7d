import DhcpLeasing.Config.Basic
import DhcpLeasing.Error

/-!
# Address pools

The addresses that one interface has for the clients of one family: a window of addresses to choose
from inside a subnet, without the few that nobody may hold. A pool knows nothing of leases; who asks
it for a candidate says which addresses are taken.
-/

namespace DhcpLeasing

/-- The addresses of an interface in one family. Addresses are numbers here, so that both families
are searched alike. -/
structure AddressPool where
  family : Family
  /-- The first and the last address of the window. -/
  first : Nat
  last : Nat
  /-- The subnet holds the addresses that agree with `subnetBase` in the bits of `subnetMask`. -/
  subnetMask : Nat
  subnetBase : Nat
  /-- The gateway, network and broadcast addresses, which nobody may hold. -/
  kept : List IpAddr
  /-- Whether the pool assigns addresses at all. -/
  stateful : Bool
  deriving DecidableEq, Repr

namespace AddressPool

/-- The pool of an IPv4 range. -/
def ofV4 (c : V4Config) : AddressPool where
  family := .v4
  first := c.rangeStart.bits.toNat
  last := c.rangeEnd.bits.toNat
  subnetMask := c.subnetMask.bits.toNat
  subnetBase := c.gateway.bits.toNat &&& c.subnetMask.bits.toNat
  kept := [.v4 c.gateway, .v4 c.network, .v4 c.broadcast]
  stateful := true

/-- The mask of every IPv6 subnet, whose network part is 64 bits long. -/
def v6Mask : Nat := 0xffffffffffffffff0000000000000000

/-- The pool of an IPv6 range: its window ends where the last byte of the first address would run
over, so it has 256 addresses at most. -/
def ofV6 (c : V6Config) : AddressPool where
  family := .v6
  first := c.rangeStart.bits.toNat
  last := c.rangeStart.bits.toNat ||| 0xff
  subnetMask := v6Mask
  subnetBase := c.rangeStart.bits.toNat &&& v6Mask
  kept := []
  stateful := c.isStateful

/-- The number of addresses in the window, those that nobody may hold included. A window that ends
before it begins has none. -/
def span (p : AddressPool) : Nat :=
  p.last + 1 - p.first

/-- The number of addresses in the window as a word of 128 bits. It is meant for a window that does
not end before it begins; for another one it wraps around. -/
def size (p : AddressPool) : BitVec 128 :=
  .ofNat 128 p.last - .ofNat 128 p.first + 1

/-- The first address of the window. -/
def firstAddress (p : AddressPool) : IpAddr :=
  .ofNumber p.family p.first

/-- The last address of the window. -/
def lastAddress (p : AddressPool) : IpAddr :=
  .ofNumber p.family p.last

/-- Whether nobody may hold the address. -/
def isKept (p : AddressPool) (ip : IpAddr) : Bool :=
  p.kept.contains ip

/-- Whether the address is one that the pool chooses from. -/
def inDynamicRange (p : AddressPool) (ip : IpAddr) : Bool :=
  ip.family == p.family && p.first ≤ ip.number && ip.number ≤ p.last && !p.isKept ip

/-- Whether the address is in the subnet. -/
def inSubnet (p : AddressPool) (ip : IpAddr) : Bool :=
  ip.family == p.family && (ip.number &&& p.subnetMask) == p.subnetBase

/-- Whether a dynamic lease may be for the address: in IPv4 one of the window, in IPv6 one of the
subnet, and none where the pool does not assign addresses. -/
def contains (p : AddressPool) (ip : IpAddr) : Bool :=
  p.stateful && ip.family == p.family &&
    match p.family with
    | .v4 => p.inDynamicRange ip
    | .v6 => p.inSubnet ip

/-- Checks that a static lease may be for the address: one of the subnet that somebody may hold. -/
def checkStatic (p : AddressPool) (ip : IpAddr) : Except RequestFault Unit := do
  unless ip.family = p.family do throw (.wrongFamily ip p.family)
  unless p.inSubnet ip do throw (.outsideSubnet ip)
  if p.isKept ip then throw (.keptAddress ip)

/-- The least of `count` numbers from `n` on that satisfies `free`. -/
def leastFree (free : Nat → Bool) (n : Nat) : (count : Nat) → Option Nat
  | 0 => none
  | count + 1 => if free n then some n else leastFree free (n + 1) count

/-- The lowest address of the window that somebody may hold and that is not taken. -/
def nextCandidate (p : AddressPool) (taken : IpAddr → Bool) : Option IpAddr :=
  if p.stateful then
    -- the search is over numbers, so that no list of all addresses is made
    let free n := !p.isKept (.ofNumber p.family n) && !taken (.ofNumber p.family n)
    (leastFree free p.first p.span).map (.ofNumber p.family)
  else none

/-- The candidates for so many successive draws, each of them taken from then on, up to the first
draw that finds none. -/
def draw (p : AddressPool) (taken : List IpAddr) : (draws : Nat) → List (Option IpAddr)
  | 0 => []
  | draws + 1 =>
    match p.nextCandidate taken.contains with
    | none => [none]
    | some ip => some ip :: draw p (ip :: taken) draws

end AddressPool

end DhcpLeasing
