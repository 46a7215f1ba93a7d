import DhcpLeasing.LeaseFile
import DhcpLeasing.Proofs.Lease.Json

/-!
# Lease files, written and read

The text of a lease file is read as the entries it was written for, field by field: `parse?_render`.
A lease must have a client, and its expiry must be a time of the calendar. Whatever else is read
from a text has such an expiry, too.
-/

namespace DhcpLeasing

variable {e : StoredLease} {es : List StoredLease} {v : Json} {text : String}

/-! ## Entries -/

namespace StoredLease

lemma spelled_toJson (e : StoredLease) : e.toJson.Spelled := by
  rw [toJson, Json.spelled_record_iff, List.forall_mem_cons]
  exact ⟨trivial, e.lease.spelled_members⟩

/-- All members of an entry are of a kind that can be held. -/
lemma areHeldMembers_toJson (e : StoredLease) :
    Json.areHeldMembers memberDepth
      ((("interface", Json.text e.interface) :: e.lease.members).map
        fun (name, value) => (some name, value)) = true := by
  obtain ⟨interface, ip, hwAddr, hostname, expiresAt, isStatic⟩ := e
  cases expiresAt <;> rfl

lemma objectFields?_toJson (e : StoredLease) :
    e.toJson.objectFields? ("interface" :: Lease.fieldNames) =
      some (some (.text e.interface) :: e.lease.fields) := by
  have hnames : ((("interface", Json.text e.interface) :: e.lease.members).map (·.1)).Nodup := by
    show ("interface" :: Lease.fieldNames).Nodup
    decide
  exact Json.recordFields?_own hnames

/-- An entry is read as it was written. -/
lemma ofJson?_toJson (h : e.lease.Storable) : ofJson? e.toJson = some e := by
  have hfields := e.objectFields?_toJson
  unfold toJson Json.record at hfields ⊢
  simp only [ofJson?, e.areHeldMembers_toJson, hfields, Option.bind_eq_bind, Option.bind_some,
    Lease.ofFields?_fields h]
  rfl

lemma timely_of_ofJson? (h : ofJson? v = some e) : e.lease.Timely := by
  unfold ofJson? at h
  split at h
  · obtain ⟨-, -, h⟩ := Option.bind_eq_some_iff.1 h
    obtain ⟨fields, -, h⟩ := Option.bind_eq_some_iff.1 h
    split at h
    · obtain ⟨interface, -, h⟩ := Option.bind_eq_some_iff.1 h
      obtain ⟨l, hl, h⟩ := Option.bind_eq_some_iff.1 h
      obtain rfl := Option.some.inj h
      exact Lease.timely_of_ofFields? hl
    · cases h
  · cases h

end StoredLease

/-! ## Files -/

namespace LeaseFile

/-- **A lease file is read as it was written**, field by field. -/
theorem parse?_render (h : ∀ e ∈ es, e.lease.Storable) : parse? (render es) = some es := by
  have hspelled : Json.SpelledItems (es.map StoredLease.toJson) := by
    rw [Json.spelledItems_iff, List.forall_mem_map]
    exact fun e _ => e.spelled_toJson
  have hentries : (es.map StoredLease.toJson).mapM StoredLease.ofJson? = some es :=
    Text.mapM_map_eq_some fun e he => StoredLease.ofJson?_toJson (h e he)
  have hread : Json.ofText? (render es) =
      some (.record [("leases", .array (es.map StoredLease.toJson))]) :=
    Json.ofText?_indented ⟨hspelled, trivial⟩
  rw [parse?, hread, Option.bind_some, ← hentries]
  rfl

/-- What is read from a text has an expiry of the calendar, if it has one. -/
theorem timely_of_parse? (h : parse? text = some es) : ∀ e ∈ es, e.lease.Timely := by
  intro e he
  obtain ⟨v, -, h⟩ := Option.bind_eq_some_iff.1 h
  unfold ofJson? at h
  obtain ⟨fields, -, h⟩ := Option.bind_eq_some_iff.1 h
  split at h
  · next leases =>
    obtain ⟨list, -, h⟩ := Option.bind_eq_some_iff.1 h
    unfold entriesOfJson? at h
    split at h
    · obtain ⟨item, hitem⟩ := Text.exists_of_mapM_eq_some h he
      exact StoredLease.timely_of_ofJson? hitem
    · cases h
  · cases h

end LeaseFile

end DhcpLeasing
