import DhcpLeasing.Lease.Json
import DhcpLeasing.Proofs.Address
import DhcpLeasing.Proofs.HwAddr
import DhcpLeasing.Proofs.Json.Printing
import DhcpLeasing.Proofs.Json.Record
import DhcpLeasing.Proofs.Time.Rfc3339

/-!
# Leases, written and read

A lease that has a client, and whose expiry is a time of the calendar, is read from its record as it
was. The record may lack what has a default, and then the default is read:
`ofJsonText?_recordWithout`.
Whatever else is read from a record has such an expiry, too.
-/

namespace DhcpLeasing

/-! ## Fields -/

lemma IpAddr.ofJson?_toText (ip : IpAddr) : ofJson? (.text ip.toText) = some ip := by
  rw [ofJson?, Json.text?_text, Option.bind_some, ip.ofText?_toText]

lemma HwAddr.ofJson?_toText {a : HwAddr} (h : a.bytes ≠ []) :
    ofJson? (.text a.toText) = some a := by
  rw [ofJson?, Json.text?_text, Option.bind_some, ofText_toText h, Except.toOption]

lemma Timestamp.ofJson?_toText {t : Timestamp} (h : t.Valid) :
    ofJson? (.text t.toText) = some t := by
  rw [ofJson?, Json.text?_text, Option.bind_some, ofText?_toText h]

/-- A time that is read from a field that may be null or left out is one of the calendar. -/
lemma Timestamp.valid_of_optional {field : Option Json} {t : Timestamp}
    (h : Json.optional none (Json.nullable? ofJson?) field = some (some t)) : t.Valid := by
  cases field with
  | none => cases h
  | some v =>
    rw [Json.optional] at h
    unfold Json.nullable? at h
    split at h
    · cases h
    · obtain ⟨t', ht, heq⟩ := Option.map_eq_some_iff.1 h
      obtain rfl := Option.some.inj heq
      obtain ⟨s, -, hread⟩ := Option.bind_eq_some_iff.1 ht
      exact .of_ofText? hread

/-- A time that a lease can expire at: one that some text stands for, or one that was computed when
the lease began. -/
inductive Timestamp.IsExpiry : Timestamp → Prop
  | read {s : String} {t : Timestamp} (h : ofText? s = some t) : IsExpiry t
  | computed {now : Timestamp} (h : firstSecond ≤ now.seconds) (d : Duration) :
      IsExpiry (now.expiryAfter d)

lemma Timestamp.IsExpiry.valid {t : Timestamp} (h : t.IsExpiry) : t.Valid := by
  cases h with
  | read h => exact .of_ofText? h
  | computed h d => exact valid_expiryAfter h d

namespace Lease

variable {l : Lease} {left : List String}

/-! ## Leases that can be written -/

/-- A lease whose expiry, if it has one, is a time of the calendar. -/
def Timely (l : Lease) : Prop :=
  ∀ t, l.expiresAt = some t → t.Valid

/-- A lease that a text can stand for. -/
structure Storable (l : Lease) : Prop where
  client : l.hwAddr.bytes ≠ []
  timely : l.Timely

/-- The values of the fields of a lease, in order. -/
def fields (l : Lease) : List (Option Json) :=
  l.members.map fun member => some member.2

/-- What is read from fields has an expiry of the calendar, if it has one. -/
lemma timely_of_ofFields? {fields : List (Option Json)} (h : ofFields? fields = some l) :
    l.Timely := by
  unfold ofFields? at h
  split at h
  · dsimp only [Option.bind_eq_bind] at h
    obtain ⟨ip, -, h⟩ := Option.bind_eq_some_iff.1 h
    obtain ⟨hwAddr, -, h⟩ := Option.bind_eq_some_iff.1 h
    obtain ⟨hostname, -, h⟩ := Option.bind_eq_some_iff.1 h
    obtain ⟨expiresAt, hexpiry, h⟩ := Option.bind_eq_some_iff.1 h
    obtain ⟨isStatic, -, h⟩ := Option.bind_eq_some_iff.1 h
    obtain rfl := Option.some.inj h
    intro t ht
    obtain rfl : expiresAt = some t := ht
    exact Timestamp.valid_of_optional hexpiry
  · cases h

/-! ## Fields left out -/

/-- The fields that may be left out. -/
def optionalFields : List String :=
  ["hostname", "expires_at", "is_static"]

/-- The lease with the defaults of the fields that are left out. -/
def without (left : List String) (l : Lease) : Lease where
  ip := l.ip
  hwAddr := l.hwAddr
  hostname := if "hostname" ∈ left then "" else l.hostname
  expiresAt := if "expires_at" ∈ left then none else l.expiresAt
  isStatic := if "is_static" ∈ left then false else l.isStatic

/-- The record of a lease with fields left out. -/
def recordWithout (left : List String) (l : Lease) : Json :=
  .record (l.members.filter fun member => member.1 ∉ left)

@[simp] lemma without_nil (l : Lease) : l.without [] = l := rfl

lemma recordWithout_nil (l : Lease) : l.recordWithout [] = l.toJson := rfl

/-- The values of the fields of a lease with fields left out, in order. -/
def fieldsWithout (left : List String) (l : Lease) : List (Option Json) :=
  fieldNames.map fun name => if name ∈ left then none else l.members.lookup name

lemma recordFields?_recordWithout (left : List String) (l : Lease) :
    (l.recordWithout left).recordFields? fieldNames = some (l.fieldsWithout left) := by
  have hnames : (l.members.map (·.1)).Nodup := by
    show fieldNames.Nodup
    decide
  have hsub := List.filter_sublist (p := fun member : String × Json => member.1 ∉ left)
    (l := l.members)
  rw [recordWithout, Json.recordFields?_record (hnames.sublist (hsub.map _)), fieldsWithout]
  congr 2
  funext name
  rw [Json.lookup_filter fun name => decide (name ∉ left)]
  by_cases hmem : name ∈ left <;> simp [hmem]

/-- A lease is read from its fields as it was, with the defaults of those left out. -/
lemma ofFields?_fieldsWithout (h : l.Storable) (hleft : left ⊆ optionalFields) :
    ofFields? (l.fieldsWithout left) = some (l.without left) := by
  have hip : "ip" ∉ left := fun hmem => absurd (hleft hmem) (by decide)
  have hclient : "hw_addr" ∉ left := fun hmem => absurd (hleft hmem) (by decide)
  have hexpiry : Json.nullable? Timestamp.ofJson?
      ((l.expiresAt.map fun t => Json.text t.toText).getD .null) = some l.expiresAt := by
    refine Json.nullable?_getD fun t ht => ?_
    rw [Json.nullable?_text, Timestamp.ofJson?_toText (h.timely t ht), Option.map_some]
  have hfields : l.fieldsWithout left =
      [some (.text l.ip.toText), some (.text l.hwAddr.toText),
        if "hostname" ∈ left then none else some (.text l.hostname),
        if "expires_at" ∈ left then none
          else some ((l.expiresAt.map fun t => Json.text t.toText).getD .null),
        if "is_static" ∈ left then none else some (.bool l.isStatic)] := by
    simp only [fieldsWithout, fieldNames, List.map_cons, List.map_nil, hip, hclient, if_false]
    cases hexpires : l.expiresAt <;> simp only [members, hexpires] <;> rfl
  rw [hfields, ofFields?, Json.required, Json.required, Option.bind_some, Option.bind_some,
    IpAddr.ofJson?_toText, HwAddr.ofJson?_toText h.client,
    Json.optional_ite (Json.text?_text l.hostname), Json.optional_ite hexpiry,
    Json.optional_ite (show Json.bool? (.bool l.isStatic) = some l.isStatic from rfl)]
  rfl

/-- A lease is read from its fields as it was. -/
lemma ofFields?_fields (h : l.Storable) : ofFields? l.fields = some l :=
  ofFields?_fieldsWithout h (List.nil_subset optionalFields)

/-! ## Texts -/

lemma spelled_members (l : Lease) : ∀ member ∈ l.members, member.2.Spelled := by
  obtain ⟨ip, hwAddr, hostname, expiresAt, isStatic⟩ := l
  cases expiresAt <;> simp [members, Json.text, Json.Spelled]

/-- The text of a lease, without blanks. -/
def jsonText (l : Lease) : String :=
  Json.compact l.toJson

/-- The lease that a text stands for. -/
def ofJsonText? (text : String) : Option Lease :=
  (Json.ofText? text).bind ofJson?

/-- A lease is read from its text as it was, with the defaults of the fields left out. -/
lemma ofJsonText?_recordWithout (h : l.Storable) (hleft : left ⊆ optionalFields) :
    ofJsonText? (Json.compact (l.recordWithout left)) = some (l.without left) := by
  have hspelled : (l.recordWithout left).Spelled :=
    Json.spelled_record_iff.2 fun member hmem =>
      l.spelled_members member (List.mem_of_mem_filter hmem)
  rw [ofJsonText?, Json.ofText?_compact hspelled, Option.bind_some, ofJson?,
    recordFields?_recordWithout, Option.bind_some, ofFields?_fieldsWithout h hleft]

/-- **A lease survives being written.** From the text without blanks the same lease is read, whose
text is the same again, if the lease has a client. If hostname, expiry or the static flag are left
out of the text, the lease is read without a hostname, without an expiry or as not static. -/
theorem text_read_back (hclient : l.hwAddr.bytes ≠ [])
    (hexpiry : ∀ t, l.expiresAt = some t → t.IsExpiry) :
    ofJsonText? l.jsonText = some l ∧
      (∀ {l'}, ofJsonText? l.jsonText = some l' → l'.jsonText = l.jsonText) ∧
        ∀ {left}, left ⊆ optionalFields →
          ofJsonText? (Json.compact (l.recordWithout left)) = some (l.without left) := by
  have hstorable : l.Storable := ⟨hclient, fun t ht => (hexpiry t ht).valid⟩
  have hread : ofJsonText? l.jsonText = some l := by
    have hwhole := ofJsonText?_recordWithout hstorable (List.nil_subset optionalFields)
    rwa [recordWithout_nil, without_nil, ← jsonText] at hwhole
  refine ⟨hread, ?_, fun hleft => ofJsonText?_recordWithout hstorable hleft⟩
  intro l' hl'
  rw [hread] at hl'
  rw [Option.some.inj hl']

/-- A lease of an IPv4-mapped address, with quotes and controls in its hostname, that expires within
a leap second. -/
theorem exists_text_read_back :
    let l : Lease :=
      ⟨.v6 ⟨0xffff0a000001⟩, ⟨[0, 1]⟩, "\"\\\n\x01é", some ⟨1483228799, 1250000000⟩, false⟩
    (l.hwAddr.bytes ≠ [] ∧ ∀ t, l.expiresAt = some t → t.IsExpiry) ∧
      l.jsonText = "\x7b\"ip\":\"::ffff:10.0.0.1\",\"hw_addr\":\"00:01\"," ++
        "\"hostname\":\"\\\"\\\\\\n\\u0001é\",\"expires_at\":\"2016-12-31T23:59:60.250Z\"," ++
          "\"is_static\":false\x7d" ∧
        ofJsonText? l.jsonText = some l ∧
          ofJsonText? (Json.compact (l.recordWithout ["expires_at"])) =
            some { l with expiresAt := none } := by
  intro l
  have hexpiry : ∀ t, l.expiresAt = some t → t.IsExpiry := by
    rintro _ ⟨⟩
    exact .read (s := "2016-12-31T23:59:60.25Z") (by decide +kernel)
  obtain ⟨hread, -, hwithout⟩ := l.text_read_back (by decide) hexpiry
  exact ⟨⟨by decide, hexpiry⟩, by decide +kernel, hread, hwithout (by decide)⟩

end Lease

end DhcpLeasing
