import DhcpLeasing.Config.Json
import DhcpLeasing.Proofs.Address
import DhcpLeasing.Proofs.Json.Printing
import DhcpLeasing.Proofs.Json.Record

/-!
# Configurations, written and read

Every configuration is read from its record as it was: `Config.ofJson?_toJson`. The record holds all
fields, so that no default stands in for one, and the interfaces in the order of their names.
-/

namespace DhcpLeasing

/-! ## Fields -/

lemma Ipv4.ofJson?_toText (a : Ipv4) : ofJson? (.text a.toText) = some a := by
  rw [ofJson?, Json.text?_text, Option.bind_some, a.ofText?_toText]

lemma Ipv6.ofJson?_toText (a : Ipv6) : ofJson? (.text a.toText) = some a := by
  rw [ofJson?, Json.text?_text, Option.bind_some, a.ofText?_toText]

lemma word32?_ofNat (w : UInt32) : word32? (.ofNat w.toNat) = some w := by
  rw [word32?, Json.natBelow?_ofNat w.toNat_lt, Option.map_some, UInt32.ofNat_toNat]

lemma word64?_ofNat (w : UInt64) : word64? (.ofNat w.toNat) = some w := by
  rw [word64?, Json.natBelow?_ofNat w.toNat_lt, Option.map_some, UInt64.ofNat_toNat]

/-! ## Families -/

lemma V4Config.ofJson?_toJson (c : V4Config) : ofJson? c.toJson = some c := by
  have hfields : c.toJson.recordFields? fieldNames =
      some [some (.text c.gateway.toText), some (.text c.subnetMask.toText),
        some (.text c.rangeStart.toText), some (.text c.rangeEnd.toText),
        some (.ofNat c.leaseSeconds.toNat), some (.bool c.enabled)] :=
    Json.recordFields?_own (show fieldNames.Nodup by decide)
  rw [ofJson?, hfields, Option.bind_some, ofFields?]
  simp only [Json.required, Option.bind_some, Ipv4.ofJson?_toText, word32?_ofNat, Json.bool?]
  rfl

lemma V6Config.ofJson?_toJson (c : V6Config) : ofJson? c.toJson = some c := by
  have hfields : c.toJson.recordFields? fieldNames =
      some [some (.text c.rangeStart.toText), some (.ofNat c.leaseSeconds.toNat),
        some (.bool c.slaacOnly), some (.bool c.slaacAllowed), some (.bool c.enabled)] :=
    Json.recordFields?_own (show fieldNames.Nodup by decide)
  rw [ofJson?, hfields, Option.bind_some, ofFields?]
  simp only [Json.required, Json.optional, Option.bind_some, Ipv6.ofJson?_toText, word32?_ofNat,
    Json.bool?]
  rfl

lemma V4Config.spelled_toJson (c : V4Config) : c.toJson.Spelled := by
  simp [toJson, Json.spelled_record_iff, Json.text, Json.ofNat, Json.Spelled,
    Json.wellSpelled_ofNat]

lemma V6Config.spelled_toJson (c : V6Config) : c.toJson.Spelled := by
  simp [toJson, Json.spelled_record_iff, Json.text, Json.ofNat, Json.Spelled,
    Json.wellSpelled_ofNat]

/-! ## Interfaces -/

namespace InterfaceConfig

lemma ofJson?_toJson (c : InterfaceConfig) : ofJson? c.toJson = some c := by
  have hv4 : ∀ v4 : V4Config, Json.nullable? V4Config.ofJson? v4.toJson = some (some v4) := by
    intro v4
    rw [V4Config.toJson, Json.nullable?_record, ← V4Config.toJson, v4.ofJson?_toJson,
      Option.map_some]
  have hv6 : ∀ v6 : V6Config, Json.nullable? V6Config.ofJson? v6.toJson = some (some v6) := by
    intro v6
    rw [V6Config.toJson, Json.nullable?_record, ← V6Config.toJson, v6.ofJson?_toJson,
      Option.map_some]
  have hfields : c.toJson.recordFields? fieldNames =
      some [some ((c.v4.map V4Config.toJson).getD .null),
        some ((c.v6.map V6Config.toJson).getD .null)] :=
    Json.recordFields?_own (show fieldNames.Nodup by decide)
  rw [ofJson?, hfields, Option.bind_some, ofFields?]
  simp only [Json.optional, Json.nullable?_getD fun v4 _ => hv4 v4,
    Json.nullable?_getD fun v6 _ => hv6 v6]
  rfl

lemma spelled_toJson (c : InterfaceConfig) : c.toJson.Spelled := by
  obtain ⟨v4, v6⟩ := c
  cases v4 <;> cases v6 <;>
    simp [toJson, Json.spelled_record_iff, Json.Spelled, V4Config.spelled_toJson,
      V6Config.spelled_toJson]

lemma mapOfJson?_object (members : List (Option String × Json)) :
    mapOfJson? (.object members) = (do
      let entries ← members.mapM fun member => do return (← member.1, ← ofJson? member.2)
      return .ofList entries) := rfl

/-- The interfaces of a configuration are found by their names again. -/
lemma mapOfJson?_record (m : SortedMap String InterfaceConfig) :
    mapOfJson? (.record (m.toList.map fun e => (e.1, e.2.toJson))) = some m := by
  rw [Json.record, List.map_map, mapOfJson?_object, Text.mapM_map_eq_some]
  · exact congrArg some m.ofList_toList
  · intro e _
    show (do return (← some e.1, ← ofJson? e.2.toJson)) = some e
    rw [e.2.ofJson?_toJson]
    rfl

end InterfaceConfig

/-! ## Configurations -/

namespace Config

/-- **A configuration is read from its record as it was.** -/
theorem ofJson?_toJson (c : Config) : ofJson? c.toJson = some c := by
  have hfields : c.toJson.recordFields? fieldNames =
      some [some (.bool c.enabled),
        some (.record (c.interfaces.toList.map fun e => (e.1, e.2.toJson))),
        some (.text c.localDomain), some (.ofNat c.probeTimeoutMillis.toNat),
        some (.text c.leasesFile), some (.ofNat c.saveIntervalMillis.toNat)] :=
    Json.recordFields?_own (show fieldNames.Nodup by decide)
  rw [ofJson?, hfields, Option.bind_some, ofFields?]
  simp only [Json.required, Json.optional, Option.bind_some, Json.bool?, Json.text?_text,
    InterfaceConfig.mapOfJson?_record, word64?_ofNat]
  rfl

lemma spelled_toJson (c : Config) : c.toJson.Spelled := by
  have hinterfaces :
      (Json.record (c.interfaces.toList.map fun e => (e.1, e.2.toJson))).Spelled := by
    rw [Json.spelled_record_iff, List.forall_mem_map]
    exact fun e _ => e.2.spelled_toJson
  rw [toJson, Json.spelled_record_iff]
  simp only [List.forall_mem_cons]
  exact ⟨trivial, hinterfaces, trivial, Json.wellSpelled_ofNat _, trivial, Json.wellSpelled_ofNat _,
    by simp⟩

end Config

end DhcpLeasing
