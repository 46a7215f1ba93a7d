import DhcpLeasing.Text.Digits

/-!
# JSON values

A JSON value as it is written: a number keeps its spelling, and an object its members in order, with
repeated names.
-/

namespace DhcpLeasing

/-- The spelling of a JSON number. -/
structure JsonNumber where
  negative : Bool
  whole : List Char
  /-- The digits after the point. -/
  fraction : Option (List Char)
  /-- Whether the exponent is negative, and its digits. -/
  exponent : Option (Bool × List Char)
  deriving DecidableEq, Repr

/-- A JSON value. A string or a name is absent where it has an escape for half of a surrogate pair:
such a string can be written, but no text is meant by it. -/
inductive Json where
  | null
  | bool (value : Bool)
  | number (spelling : JsonNumber)
  | string (content : Option String)
  | array (items : List Json)
  | object (members : List (Option String × Json))
  deriving Repr

namespace JsonNumber

/-- The spelling of a natural number. -/
def ofNat (n : Nat) : JsonNumber :=
  ⟨false, Text.decimal n, none, none⟩

/-- The integer that is spelled without a fraction and an exponent. -/
def int? (s : JsonNumber) : Option Int :=
  match s with
  | ⟨negative, whole, none, none⟩ =>
    some (if negative then -(Text.ofDecimal whole) else Text.ofDecimal whole)
  | _ => none

/-- The natural number that is spelled without a sign, a fraction and an exponent. -/
def nat? (s : JsonNumber) : Option Nat :=
  match s with
  | ⟨false, whole, none, none⟩ => some (Text.ofDecimal whole)
  | _ => none

/-- The least number that double precision rounds to infinity. -/
def leastHuge : Nat := Nat.pow 2 1024 - Nat.pow 2 970

/-- Whether the number is at least `leastHuge`. An exponent that no digits can make up for decides
without being raised to. -/
def isHuge (s : JsonNumber) : Bool :=
  let fraction := s.fraction.getD []
  let digits := Text.ofDecimal (s.whole ++ fraction)
  let exponent : Int :=
    match s.exponent with
    | none => 0
    | some (true, e) => -(Text.ofDecimal e)
    | some (false, e) => Text.ofDecimal e
  let scale := exponent - fraction.length
  if digits = 0 then false
  else if 309 ≤ scale then true
  else if 0 ≤ scale then leastHuge ≤ digits * Nat.pow 10 scale.toNat
  else
    -- a number of so few digits is below one
    if (s.whole.length + fraction.length : Int) < -scale then false
    else leastHuge * Nat.pow 10 scale.natAbs ≤ digits

end JsonNumber

namespace Json

/-- A natural number as a value. -/
def ofNat (n : Nat) : Json := number (.ofNat n)

/-- A text as a value. -/
def text (s : String) : Json := string (some s)

/-- An object with the given members. -/
def record (members : List (String × Json)) : Json :=
  object (members.map fun (name, value) => (some name, value))

/-- The text that a string holds. -/
def text? : Json → Option String
  | string content => content
  | _ => none

/-- The truth value. -/
def bool? : Json → Option Bool
  | bool value => some value
  | _ => none

/-- The natural number below `bound`. -/
def natBelow? (bound : Nat) : Json → Option Nat
  | number spelling => spelling.nat?.filter (· < bound)
  | _ => none

/-- A value that may be null. -/
def nullable? {α : Type} (read : Json → Option α) : Json → Option (Option α)
  | null => some none
  | value => (read value).map some

end Json

end DhcpLeasing
