import DhcpLeasing.Json.Basic

/-!
# JSON text, read

Strict JSON (RFC 8259): no comment, no trailing comma, no leading zero, no raw control character in
a string, and nothing but blanks around the value.
-/

namespace DhcpLeasing.Json

open Text

/-- The four characters that may stand between tokens. -/
def isSpace (c : Char) : Bool :=
  c == ' ' || c == '\n' || c == '\t' || c == '\r'

/-- The text without the blanks at its head. -/
def skip (cs : List Char) : List Char :=
  cs.dropWhile isSpace

/-! ## Strings -/

/-- A piece of a string: a character, or the UTF-16 unit that a `\u` escape names. -/
inductive Piece where
  | char (c : Char)
  | unit (value : Nat)
  deriving DecidableEq, Repr

/-- The character that a backslash and one more character stand for. -/
def shortEscape? (c : Char) : Option Char :=
  match c with
  | '"' => some '"'
  | '\\' => some '\\'
  | '/' => some '/'
  | 'b' => some '\x08'
  | 'f' => some '\x0c'
  | 'n' => some '\n'
  | 'r' => some '\r'
  | 't' => some '\t'
  | _ => none

/-- The pieces up to the closing quote, and the text after it. -/
def readPieces : List Char → Option (List Piece × List Char)
  | [] => none
  | '"' :: rest => some ([], rest)
  | '\\' :: 'u' :: a :: b :: c :: d :: rest => do
    let value ← ofHex? [a, b, c, d]
    let (pieces, rest) ← readPieces rest
    return (.unit value :: pieces, rest)
  | '\\' :: c :: rest => do
    let c ← shortEscape? c
    let (pieces, rest) ← readPieces rest
    return (.char c :: pieces, rest)
  | c :: rest => do
    guard (0x20 ≤ c.toNat && c != '\\')
    let (pieces, rest) ← readPieces rest
    return (.char c :: pieces, rest)

/-- The first half of a surrogate pair. -/
def isHighHalf (unit : Nat) : Bool := 0xD800 ≤ unit && unit < 0xDC00

/-- The second half of a surrogate pair. -/
def isLowHalf (unit : Nat) : Bool := 0xDC00 ≤ unit && unit < 0xE000

/-- The characters that pieces stand for, absent if half of a surrogate pair stands alone. `high` is
the first half that waits for its second. -/
def joinPieces (high : Option Nat) : List Piece → Option (List Char)
  | [] => if high.isSome then none else some []
  | .char c :: rest => if high.isSome then none else (joinPieces none rest).map (c :: ·)
  | .unit value :: rest =>
    match high with
    | some h =>
      -- ten bits of each half, counted from the first character above 16 bits
      if isLowHalf value then
        (joinPieces none rest).map
          (Char.ofNat (0x10000 + (h - 0xD800) * 0x400 + (value - 0xDC00)) :: ·)
      else none
    | none =>
      if isHighHalf value then joinPieces (some value) rest
      else if isLowHalf value then none
      else (joinPieces none rest).map (Char.ofNat value :: ·)

/-- A string after its opening quote, and the text after it. -/
def readString (cs : List Char) : Option (Option String × List Char) :=
  (readPieces cs).map fun (pieces, rest) => ((joinPieces none pieces).map String.ofList, rest)

/-! ## Numbers -/

/-- One digit or more. -/
def readDigits (cs : List Char) : Option (List Char × List Char) :=
  match cs.takeWhile Char.isDigit with
  | [] => none
  | digits => some (digits, cs.dropWhile Char.isDigit)

/-- The digits after a point, if there is a point. -/
def readFraction : List Char → Option (Option (List Char) × List Char)
  | '.' :: rest => (readDigits rest).map fun (digits, rest) => (some digits, rest)
  | cs => some (none, cs)

/-- The exponent after its letter. -/
def readExponentDigits : List Char → Option (Option (Bool × List Char) × List Char)
  | '-' :: rest => (readDigits rest).map fun (digits, rest) => (some (true, digits), rest)
  | '+' :: rest => (readDigits rest).map fun (digits, rest) => (some (false, digits), rest)
  | cs => (readDigits cs).map fun (digits, rest) => (some (false, digits), rest)

/-- The exponent, if there is one. -/
def readExponent : List Char → Option (Option (Bool × List Char) × List Char)
  | 'e' :: rest => readExponentDigits rest
  | 'E' :: rest => readExponentDigits rest
  | cs => some (none, cs)

/-- A number after its sign. -/
def readUnsigned (negative : Bool) (cs : List Char) : Option (JsonNumber × List Char) := do
  let (whole, cs) ← readDigits cs
  guard (whole.head? ≠ some '0' ∨ whole.length = 1)
  let (fraction, cs) ← readFraction cs
  let (exponent, cs) ← readExponent cs
  return (⟨negative, whole, fraction, exponent⟩, cs)

/-- A number. -/
def readNumber : List Char → Option (JsonNumber × List Char)
  | '-' :: rest => readUnsigned true rest
  | cs => readUnsigned false cs

/-! ## Values -/

mutual

/-- A value and the text after it. Every step takes at least one unit of `fuel`, and every second
one a character. -/
def readValue : (fuel : Nat) → List Char → Option (Json × List Char)
  | 0, _ => none
  | fuel + 1, cs =>
    match cs with
    | 'n' :: 'u' :: 'l' :: 'l' :: rest => some (null, rest)
    | 't' :: 'r' :: 'u' :: 'e' :: rest => some (bool true, rest)
    | 'f' :: 'a' :: 'l' :: 's' :: 'e' :: rest => some (bool false, rest)
    | '"' :: rest => (readString rest).map fun (content, rest) => (string content, rest)
    | '[' :: rest =>
      match skip rest with
      | ']' :: rest => some (array [], rest)
      | rest => (readItems fuel rest).map fun (items, rest) => (array items, rest)
    | '{' :: rest =>
      match skip rest with
      | '}' :: rest => some (object [], rest)
      | rest => (readMembers fuel rest).map fun (members, rest) => (object members, rest)
    | cs => (readNumber cs).map fun (spelling, rest) => (number spelling, rest)

/-- Items up to the closing bracket, and the text after it. -/
def readItems : (fuel : Nat) → List Char → Option (List Json × List Char)
  | 0, _ => none
  | fuel + 1, cs => do
    let (item, cs) ← readValue fuel cs
    match skip cs with
    | ',' :: rest =>
      let (items, rest) ← readItems fuel (skip rest)
      return (item :: items, rest)
    | ']' :: rest => return ([item], rest)
    | _ => none

/-- Members up to the closing brace, and the text after it. -/
def readMembers : (fuel : Nat) → List Char → Option (List (Option String × Json) × List Char)
  | 0, _ => none
  | fuel + 1, cs =>
    match cs with
    | '"' :: rest => do
      let (name, rest) ← readString rest
      match skip rest with
      | ':' :: rest =>
        let (value, rest) ← readValue fuel (skip rest)
        match skip rest with
        | ',' :: rest =>
          let (members, rest) ← readMembers fuel (skip rest)
          return ((name, value) :: members, rest)
        | '}' :: rest => return ([(name, value)], rest)
        | _ => none
      | _ => none
    | _ => none

end

/-- The value that makes up a whole text. -/
def read (cs : List Char) : Option Json := do
  -- the fuel cannot run out before the text does
  let (value, rest) ← readValue (2 * cs.length + 2) (skip cs)
  guard (skip rest).isEmpty
  return value

/-- The value that a text stands for. -/
def ofText? (s : String) : Option Json :=
  read s.toList

end DhcpLeasing.Json
