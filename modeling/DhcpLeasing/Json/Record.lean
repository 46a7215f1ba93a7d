import DhcpLeasing.Json.Basic

/-!
# Records in JSON

A record with fields of given names is an object that holds them in any order, each at most once and
among other members, or an array that holds them in order.
-/

namespace DhcpLeasing.Json

/-- The values of the members with a given name. -/
def valuesOf (name : String) (members : List (Option String × Json)) : List Json :=
  (members.filter fun member => member.1 = some name).map (·.2)

/-- The fields of an object, absent where it has no such member. No name may be unreadable, and
none of the given ones may be repeated. -/
def objectFields? (names : List String) : Json → Option (List (Option Json))
  | object members =>
    if members.all (·.1.isSome) && names.all fun name => (valuesOf name members).length ≤ 1 then
      some (names.map fun name => (valuesOf name members).head?)
    else none
  | _ => none

/-- The fields of a record. An array may end early. -/
def recordFields? (names : List String) : Json → Option (List (Option Json))
  | array items =>
    if items.length ≤ names.length then
      some (items.map some ++ List.replicate (names.length - items.length) none)
    else none
  | value => objectFields? names value

/-- A field that must be there. -/
def required {α : Type} (read : Json → Option α) (field : Option Json) : Option α :=
  field.bind read

/-- A field that has a value when it is left out. -/
def optional {α : Type} (default : α) (read : Json → Option α) : Option Json → Option α
  | some value => read value
  | none => some default

/-! ## Values of any form

Where the form of a value is not known beforehand, it is held as it is until its place is clear.
Then it may not be nested too deeply, and its strings and numbers must be ones that can be held. -/

mutual

/-- Whether a value can be held inside `depth` further levels of nesting. -/
def isHeld (depth : Nat) : Json → Bool
  | null => true
  | bool _ => true
  | number spelling => !spelling.isHuge
  | string content => content.isSome
  | array items => 0 < depth && areHeldItems (depth - 1) items
  | object members => 0 < depth && areHeldMembers (depth - 1) members

/-- Whether all items can be held. -/
def areHeldItems (depth : Nat) : List Json → Bool
  | [] => true
  | item :: rest => isHeld depth item && areHeldItems depth rest

/-- Whether all members can be held. -/
def areHeldMembers (depth : Nat) : List (Option String × Json) → Bool
  | [] => true
  | (name, value) :: rest => name.isSome && isHeld depth value && areHeldMembers depth rest

end

end DhcpLeasing.Json
