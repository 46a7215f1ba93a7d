import DhcpLeasing.Address.Spelling
import DhcpLeasing.Json.Record
import DhcpLeasing.Lease.Basic
import DhcpLeasing.Time.Rfc3339

/-!
# Leases in JSON

A lease is a record of five fields. Addresses and times are strings. Hostname, expiry and the static
flag may be left out.
-/

namespace DhcpLeasing

/-- An address from a string. -/
def IpAddr.ofJson? (v : Json) : Option IpAddr :=
  v.text?.bind ofText?

/-- A hardware address from a string. -/
def HwAddr.ofJson? (v : Json) : Option HwAddr :=
  v.text?.bind fun s => (ofText s).toOption

/-- A time from a string. -/
def Timestamp.ofJson? (v : Json) : Option Timestamp :=
  v.text?.bind ofText?

namespace Lease

/-- The names of the fields of a lease, in order. -/
def fieldNames : List String :=
  ["ip", "hw_addr", "hostname", "expires_at", "is_static"]

/-- The fields of a lease with their values. -/
def members (l : Lease) : List (String × Json) :=
  [("ip", .text l.ip.toText), ("hw_addr", .text l.hwAddr.toText), ("hostname", .text l.hostname),
    ("expires_at", match l.expiresAt with
      | some t => .text t.toText
      | none => .null),
    ("is_static", .bool l.isStatic)]

/-- The record of a lease. -/
def toJson (l : Lease) : Json :=
  .record l.members

/-- The lease with the given fields, in order. -/
def ofFields? : List (Option Json) → Option Lease
  | [ip, hwAddr, hostname, expiresAt, isStatic] => do
    return {
      ip := ← Json.required IpAddr.ofJson? ip
      hwAddr := ← Json.required HwAddr.ofJson? hwAddr
      hostname := ← Json.optional "" Json.text? hostname
      expiresAt := ← Json.optional none (Json.nullable? Timestamp.ofJson?) expiresAt
      isStatic := ← Json.optional false Json.bool? isStatic }
  | _ => none

/-- The lease that a record stands for. -/
def ofJson? (v : Json) : Option Lease :=
  (v.recordFields? fieldNames).bind ofFields?

end Lease

end DhcpLeasing
