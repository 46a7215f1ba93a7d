import DhcpLeasing.Json.Printer
import DhcpLeasing.Json.Reader
import DhcpLeasing.Lease.Json

/-!
# Lease files

The leases of all interfaces as a JSON text. Each entry is a lease with the name of its interface in
front. An entry is an object whose members must be of a kind that can be held, also those that
nobody asks for.
-/

namespace DhcpLeasing

/-- A lease with the interface it belongs to. -/
structure StoredLease where
  interface : String
  lease : Lease
  deriving DecidableEq, Repr

namespace StoredLease

/-- The record of an entry. -/
def toJson (e : StoredLease) : Json :=
  .record (("interface", .text e.interface) :: e.lease.members)

/-- How deep the values of the members of an entry may be nested. -/
def memberDepth : Nat := 124

/-- The entry that a record stands for. -/
def ofJson? (v : Json) : Option StoredLease := do
  match v with
  | .object members =>
    guard (Json.areHeldMembers memberDepth members)
    match ← v.objectFields? ("interface" :: Lease.fieldNames) with
    | interface :: fields =>
      return {
        interface := ← Json.required Json.text? interface
        lease := ← Lease.ofFields? fields }
    | [] => none
  | _ => none

end StoredLease

namespace LeaseFile

/-- The names of the fields of a lease file. -/
def fieldNames : List String := ["leases"]

/-- The entries of a list. -/
def entriesOfJson? : Json → Option (List StoredLease)
  | .array items => items.mapM StoredLease.ofJson?
  | _ => none

/-- The entries that a record stands for. -/
def ofJson? (v : Json) : Option (List StoredLease) := do
  match ← v.recordFields? fieldNames with
  | [leases] => Json.required entriesOfJson? leases
  | _ => none

/-- The text of a lease file. -/
def render (entries : List StoredLease) : String :=
  Json.indented (.record [("leases", .array (entries.map StoredLease.toJson))])

/-- The entries of a lease file. -/
def parse? (text : String) : Option (List StoredLease) :=
  (Json.ofText? text).bind ofJson?

end LeaseFile

end DhcpLeasing
