import DhcpLeasing.Address.Spelling
import DhcpLeasing.Config.Basic
import DhcpLeasing.Json.Record

/-!
# Configurations in JSON

The records that a configuration file holds. The flags for address autoconfiguration, the two
families of an interface and the save interval may be left out.
-/

namespace DhcpLeasing

open Json

/-- An IPv4 address from a string. -/
def Ipv4.ofJson? (v : Json) : Option Ipv4 :=
  v.text?.bind ofText?

/-- An IPv6 address from a string. -/
def Ipv6.ofJson? (v : Json) : Option Ipv6 :=
  v.text?.bind ofText?

/-- A number of 32 bits. -/
def word32? (v : Json) : Option UInt32 :=
  (v.natBelow? UInt32.size).map .ofNat

/-- A number of 64 bits. -/
def word64? (v : Json) : Option UInt64 :=
  (v.natBelow? UInt64.size).map .ofNat

namespace V4Config

/-- The names of the fields of an IPv4 part, in order. -/
def fieldNames : List String :=
  ["gateway_ip", "subnet_mask", "range_start", "range_end", "lease_duration_seconds", "enabled"]

/-- The record of an IPv4 part. -/
def toJson (c : V4Config) : Json :=
  .record [("gateway_ip", .text c.gateway.toText), ("subnet_mask", .text c.subnetMask.toText),
    ("range_start", .text c.rangeStart.toText), ("range_end", .text c.rangeEnd.toText),
    ("lease_duration_seconds", .ofNat c.leaseSeconds.toNat), ("enabled", .bool c.enabled)]

/-- The value with the given fields, in order. -/
def ofFields? : List (Option Json) → Option V4Config
  | [gateway, subnetMask, rangeStart, rangeEnd, leaseSeconds, enabled] => do
    return {
      gateway := ← required Ipv4.ofJson? gateway
      subnetMask := ← required Ipv4.ofJson? subnetMask
      rangeStart := ← required Ipv4.ofJson? rangeStart
      rangeEnd := ← required Ipv4.ofJson? rangeEnd
      leaseSeconds := ← required word32? leaseSeconds
      enabled := ← required bool? enabled }
  | _ => none

/-- An IPv4 part from a record. -/
def ofJson? (v : Json) : Option V4Config :=
  (v.recordFields? fieldNames).bind ofFields?

end V4Config

namespace V6Config

/-- The names of the fields of an IPv6 part, in order. -/
def fieldNames : List String :=
  ["range_start", "lease_duration_seconds", "ra_slaac_only", "ra_allow_slaac", "enabled"]

/-- The record of an IPv6 part. -/
def toJson (c : V6Config) : Json :=
  .record [("range_start", .text c.rangeStart.toText),
    ("lease_duration_seconds", .ofNat c.leaseSeconds.toNat), ("ra_slaac_only", .bool c.slaacOnly),
    ("ra_allow_slaac", .bool c.slaacAllowed), ("enabled", .bool c.enabled)]

/-- The value with the given fields, in order. -/
def ofFields? : List (Option Json) → Option V6Config
  | [rangeStart, leaseSeconds, slaacOnly, slaacAllowed, enabled] => do
    return {
      rangeStart := ← required Ipv6.ofJson? rangeStart
      leaseSeconds := ← required word32? leaseSeconds
      slaacOnly := ← optional false bool? slaacOnly
      slaacAllowed := ← optional false bool? slaacAllowed
      enabled := ← required bool? enabled }
  | _ => none

/-- An IPv6 part from a record. -/
def ofJson? (v : Json) : Option V6Config :=
  (v.recordFields? fieldNames).bind ofFields?

end V6Config

namespace InterfaceConfig

/-- The names of the fields of an interface, in order. -/
def fieldNames : List String := ["dhcpv4", "dhcpv6"]

/-- The record of an interface. -/
def toJson (c : InterfaceConfig) : Json :=
  .record [("dhcpv4", (c.v4.map V4Config.toJson).getD .null),
    ("dhcpv6", (c.v6.map V6Config.toJson).getD .null)]

/-- The value with the given fields, in order. -/
def ofFields? : List (Option Json) → Option InterfaceConfig
  | [v4, v6] => do
    return {
      v4 := ← optional none (nullable? V4Config.ofJson?) v4
      v6 := ← optional none (nullable? V6Config.ofJson?) v6 }
  | _ => none

/-- An interface from a record. -/
def ofJson? (v : Json) : Option InterfaceConfig :=
  (v.recordFields? fieldNames).bind ofFields?

/-- The interfaces of an object, by their names. Of two of one name the later one counts. -/
def mapOfJson? : Json → Option (SortedMap String InterfaceConfig)
  | .object members => do
    let entries ← members.mapM fun (name, value) => return (← name, ← ofJson? value)
    return .ofList entries
  | _ => none

end InterfaceConfig

namespace Config

/-- The names of the fields of a configuration, in order. -/
def fieldNames : List String :=
  ["enabled", "interfaces", "local_domain_name", "icmp_timeout_millis", "leases_file",
    "save_interval_millis"]

/-- The record of a configuration. -/
def toJson (c : Config) : Json :=
  .record [("enabled", .bool c.enabled),
    ("interfaces", .record (c.interfaces.toList.map fun (name, i) => (name, i.toJson))),
    ("local_domain_name", .text c.localDomain),
    ("icmp_timeout_millis", .ofNat c.probeTimeoutMillis.toNat),
    ("leases_file", .text c.leasesFile),
    ("save_interval_millis", .ofNat c.saveIntervalMillis.toNat)]

/-- The value with the given fields, in order. -/
def ofFields? : List (Option Json) → Option Config
  | [enabled, interfaces, localDomain, probeTimeoutMillis, leasesFile, saveIntervalMillis] => do
    return {
      enabled := ← required bool? enabled
      interfaces := ← required InterfaceConfig.mapOfJson? interfaces
      localDomain := ← required text? localDomain
      probeTimeoutMillis := ← required word64? probeTimeoutMillis
      leasesFile := ← required text? leasesFile
      saveIntervalMillis := ← optional defaultSaveInterval word64? saveIntervalMillis }
  | _ => none

/-- A configuration from a record. -/
def ofJson? (v : Json) : Option Config :=
  (v.recordFields? fieldNames).bind ofFields?

end Config

end DhcpLeasing
