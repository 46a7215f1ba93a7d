import DhcpLeasing.Address.Basic
import DhcpLeasing.Text.Digits

/-!
# Dotted IPv4 text

An IPv4 address is written as its four bytes in decimal, without leading zeros, with dots between
them. Nothing else is read.
-/

namespace DhcpLeasing.Ipv4

open Text

/-- The four bytes of an address, the leftmost first. -/
def bytes (a : Ipv4) : List Nat :=
  let n := a.bits.toNat
  [n / 0x1000000, n / 0x10000 % 0x100, n / 0x100 % 0x100, n % 0x100]

/-- The text of an address, as characters. -/
def render (a : Ipv4) : List Char :=
  ['.'].intercalate (a.bytes.map decimal)

/-- The text of an address. -/
def toText (a : Ipv4) : String :=
  String.ofList a.render

/-- Reads one of the four parts: up to three decimal digits, no needless zero in front, at most
255. -/
def readByte (digits : List Char) : Option Nat :=
  if digits.isEmpty || 3 < digits.length || !digits.all Char.isDigit then none
  else if digits.head? = some '0' ∧ digits.length ≠ 1 then none
  else
    let n := ofDecimal digits
    if n < 0x100 then some n else none

/-- Reads an address that makes up the whole text. -/
def read (cs : List Char) : Option Ipv4 :=
  match (cs.splitOn '.').mapM readByte with
  | some [a, b, c, d] => some ⟨.ofNat 32 (a * 0x1000000 + b * 0x10000 + c * 0x100 + d)⟩
  | _ => none

/-- The address that a text stands for. -/
def ofText? (s : String) : Option Ipv4 :=
  read s.toList

end DhcpLeasing.Ipv4
