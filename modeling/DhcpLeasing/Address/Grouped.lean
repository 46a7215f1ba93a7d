import DhcpLeasing.Address.Dotted

/-!
# Grouped IPv6 text

An IPv6 address is eight groups of 16 bits, written in hexadecimal with colons between them. One
run of zero groups may be left out, which `::` marks; the last two groups may be written as a
dotted IPv4 address (RFC 4291). Of the spellings of an address one is written (RFC 5952): lowercase
digits without leading zeros, the longest run of two or more zero groups left out, the first of them
if several are as long, and a dotted end in an IPv4-mapped address only.
-/

namespace DhcpLeasing.Ipv6

open Text

/-! ## Writing -/

/-- The eight groups of an address, the leftmost first. -/
def groups (a : Ipv6) : List Nat :=
  (List.range 8).map fun i => a.bits.toNat >>> (16 * (7 - i)) % 0x10000

/-- The address of eight groups. -/
def ofGroups (gs : List Nat) : Ipv6 :=
  ⟨.ofNat 128 (gs.foldl (fun n g => n * 0x10000 + g) 0)⟩

/-- The IPv4 address that an IPv4-mapped address, `::ffff:a.b.c.d`, stands for. -/
def mapped? (a : Ipv6) : Option Ipv4 :=
  if a.bits.toNat / 0x100000000 = 0xFFFF then some ⟨a.bits.setWidth 32⟩ else none

/-- The number of zero groups at the head of a list. -/
def zerosAhead (gs : List Nat) : Nat :=
  (gs.takeWhile (· = 0)).length

/-- The longest run of zero groups, as its start and its length; of equally long ones the first. -/
def longestZeros (gs : List Nat) : Nat × Nat :=
  (List.range gs.length).foldl (fun best i =>
    let length := zerosAhead (gs.drop i)
    -- of equally long runs the earlier one stays
    if best.2 < length then (i, length) else best) (0, 0)

/-- Groups in hexadecimal with colons between them. -/
def renderGroups (gs : List Nat) : List Char :=
  [':'].intercalate (gs.map (Nat.toDigits 16))

/-- The text of an address, as characters. -/
def render (a : Ipv6) : List Char :=
  match a.mapped? with
  | some inner => "::ffff:".toList ++ inner.render
  | none =>
    let (start, length) := longestZeros a.groups
    if 1 < length then
      renderGroups (a.groups.take start) ++ [':', ':'] ++
        renderGroups (a.groups.drop (start + length))
    else renderGroups a.groups

/-- The text of an address. -/
def toText (a : Ipv6) : String :=
  String.ofList a.render

/-! ## Reading -/

/-- Reads a group of one to four hexadecimal digits. -/
def readGroup (digits : List Char) : Option Nat :=
  if digits.isEmpty || 4 < digits.length then none else ofHex? digits

/-- Reads the parts between colons as groups. Where `dottedEnd` allows it, the last part may be a
dotted IPv4 address, which makes two groups. -/
def readParts (dottedEnd : Bool) : List (List Char) → Option (List Nat)
  | [] => some []
  | [last] =>
    match readGroup last with
    | some g => some [g]
    -- a dotted address is no group, so nothing is read in two ways
    | none => do
      guard dottedEnd
      let inner ← Ipv4.read last
      return [inner.bits.toNat / 0x10000, inner.bits.toNat % 0x10000]
  | part :: rest => return (← readGroup part) :: (← readParts dottedEnd rest)

/-- Reads groups with colons between them; there may be none. -/
def readGroups (dottedEnd : Bool) (cs : List Char) : Option (List Nat) :=
  if cs.isEmpty then some [] else readParts dottedEnd (cs.splitOn ':')

/-- The text before and the text after the first `::`. -/
def splitGap : List Char → Option (List Char × List Char)
  | [] => none
  | ':' :: ':' :: rest => some ([], rest)
  | c :: rest => (splitGap rest).map fun (before, after) => (c :: before, after)

/-- Reads an address that makes up the whole text. A gap stands for at least one group. -/
def read (cs : List Char) : Option Ipv6 :=
  match splitGap cs with
  | none => do
    let gs ← readGroups true cs
    guard (gs.length = 8)
    return ofGroups gs
  | some (before, after) => do
    let high ← readGroups false before
    let low ← readGroups true after
    guard (high.length + low.length < 8)
    return ofGroups (high ++ List.replicate (8 - high.length - low.length) 0 ++ low)

/-- The address that a text stands for. -/
def ofText? (s : String) : Option Ipv6 :=
  read s.toList

end DhcpLeasing.Ipv6
