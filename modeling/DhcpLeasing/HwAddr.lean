import DhcpLeasing.Address.Basic
import DhcpLeasing.Text.Blank
import DhcpLeasing.Text.Digits
import DhcpLeasing.Text.Lowercase

/-!
# Hardware addresses

What identifies a client: a MAC address for IPv4, a DUID for IPv6. Both are byte strings, written as
pairs of hexadecimal digits with colons between them.
-/

namespace DhcpLeasing

open Text

/-- A hardware address. Addresses are ordered byte by byte. -/
structure HwAddr where
  bytes : List UInt8
  deriving DecidableEq, Repr

/-- What can be wrong with a hardware address. -/
inductive HwAddrFault where
  /-- It has no bytes. -/
  | empty
  /-- Clients of the family have no address of this length. -/
  | badLength (family : Family) (length : Nat)
  /-- The text is no hardware address. -/
  | malformed (text : String)
  deriving DecidableEq, Repr

namespace HwAddr

instance : Ord HwAddr := ⟨fun a b => compare a.bytes b.bytes⟩

instance : Std.TransOrd HwAddr where
  eq_swap {a b} := Std.OrientedOrd.eq_swap (a := a.bytes) (b := b.bytes)
  isLE_trans {a b c} := Std.TransOrd.isLE_trans (a := a.bytes) (b := b.bytes) (c := c.bytes)

instance : Std.LawfulEqOrd HwAddr where
  compare_self {a} := Std.compare_self (a := a.bytes)
  eq_of_compare {a b} h := by
    cases a; cases b
    exact congrArg HwAddr.mk (Std.compare_eq_iff_eq.1 h)

/-! ## Lengths -/

/-- The longest DUID: two bytes for its type and 128 more. -/
def longestDuid : Nat := 130

/-- Whether a client of the family can have an address of this length. MAC addresses have 6 bytes,
or 8 or 20 in the wider networks that use such addresses. -/
def fitsLength : Family → Nat → Bool
  | .v4, n => n = 6 || n = 8 || n = 20
  | .v6, n => 1 ≤ n && n ≤ longestDuid

/-- Checks that a client of the family can have the address. -/
def validateFor (family : Family) (a : HwAddr) : Except HwAddrFault Unit :=
  if fitsLength family a.bytes.length then .ok ()
  else if a.bytes.isEmpty then .error .empty
  else .error (.badLength family a.bytes.length)

/-! ## Text -/

/-- The two lowercase hexadecimal digits of a byte. -/
def renderByte (b : UInt8) : List Char :=
  [Nat.digitChar (b.toNat / 16), Nat.digitChar (b.toNat % 16)]

/-- The text of an address, as characters. -/
def render (a : HwAddr) : List Char :=
  [':'].intercalate (a.bytes.map renderByte)

/-- The text of an address. -/
def toText (a : HwAddr) : String :=
  String.ofList a.render

/-- Reads a byte from two characters: two hexadecimal digits, or a plus sign and one digit. -/
def readByte : List Char → Option UInt8
  | [high, low] => do
    let low ← hexDigit? low
    let high ← if high = '+' then some 0 else hexDigit? high
    return .ofNat (16 * high + low)
  | _ => none

/-- The text as bytes are looked for in it: without blanks at its ends, in lowercase, and with
colons for dashes. -/
def normalize (text : String) : List Char :=
  (lowercase (trim text)).toList.map fun c => if c = '-' then ':' else c

/-- The address that a text stands for: bytes with colons or dashes between them. -/
def ofText (text : String) : Except HwAddrFault HwAddr :=
  let cs := normalize text
  if cs.isEmpty then .error .empty
  else
    match (cs.splitOn ':').mapM readByte with
    | some bytes => .ok ⟨bytes⟩
    | none => .error (.malformed text)

end HwAddr

end DhcpLeasing
