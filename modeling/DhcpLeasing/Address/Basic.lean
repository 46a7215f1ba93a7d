/-!
# Network addresses

Addresses of the two families, their order (IPv4 before IPv6, then by number) and the conversion
between an address and its number.
-/

namespace DhcpLeasing

/-- The address families, each served by a protocol of its own. -/
inductive Family where
  | v4
  | v6
  deriving DecidableEq, Repr

/-- The protocol that serves the family, as messages name it. -/
def Family.name : Family → String
  | .v4 => "dhcpv4"
  | .v6 => "dhcpv6"

/-- An IPv4 address. -/
structure Ipv4 where
  bits : BitVec 32
  deriving DecidableEq, Repr

/-- An IPv6 address. -/
structure Ipv6 where
  bits : BitVec 128
  deriving DecidableEq, Repr

/-- An address of either family. -/
inductive IpAddr where
  | v4 (address : Ipv4)
  | v6 (address : Ipv6)
  deriving DecidableEq, Repr

/-- The IPv4 address with the given four bytes, the leftmost first. -/
def Ipv4.ofBytes (a b c d : UInt8) : Ipv4 :=
  ⟨a.toBitVec ++ b.toBitVec ++ c.toBitVec ++ d.toBitVec⟩

namespace IpAddr

/-- The family of an address. -/
def family : IpAddr → Family
  | v4 _ => .v4
  | v6 _ => .v6

/-- The number of an address within its family. -/
def number : IpAddr → Nat
  | v4 a => a.bits.toNat
  | v6 a => a.bits.toNat

/-- The address of a family with the given number. -/
def ofNumber : Family → Nat → IpAddr
  | .v4, n => v4 ⟨.ofNat 32 n⟩
  | .v6, n => v6 ⟨.ofNat 128 n⟩

/-- The place of an address in the common order of both families. -/
def rank : IpAddr → Nat
  | v4 a => a.bits.toNat
  | v6 a => 0x100000000 + a.bits.toNat

theorem rank_inj {a b : IpAddr} : a.rank = b.rank ↔ a = b := by
  refine ⟨fun h => ?_, fun h => h ▸ rfl⟩
  rcases a with ⟨⟨a⟩⟩ | ⟨⟨a⟩⟩ <;> rcases b with ⟨⟨b⟩⟩ | ⟨⟨b⟩⟩ <;> simp only [rank] at h
  · rw [BitVec.eq_of_toNat_eq h]
  · have := a.isLt; omega
  · have := b.isLt; omega
  · rw [BitVec.eq_of_toNat_eq (Nat.add_left_cancel h)]

instance : Ord IpAddr := ⟨fun a b => compare a.rank b.rank⟩

theorem compare_def (a b : IpAddr) : compare a b = compare a.rank b.rank := rfl

instance : Std.TransOrd IpAddr where
  eq_swap {a b} := Std.OrientedOrd.eq_swap (a := a.rank) (b := b.rank)
  isLE_trans {a b c} := Std.TransOrd.isLE_trans (a := a.rank) (b := b.rank) (c := c.rank)

instance : Std.LawfulEqOrd IpAddr where
  compare_self {a} := Std.compare_self (a := a.rank)
  eq_of_compare {a b} h := rank_inj.1 (Std.compare_eq_iff_eq (a := a.rank) (b := b.rank).1 h)

@[simp] theorem family_ofNumber (f : Family) (n : Nat) : (ofNumber f n).family = f := by
  cases f <;> rfl

@[simp] theorem ofNumber_number (a : IpAddr) : ofNumber a.family a.number = a := by
  cases a <;> simp [ofNumber, family, number]

end IpAddr

end DhcpLeasing
