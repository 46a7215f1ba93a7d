import DhcpLeasing.Proofs.HwAddr.Spellings
import DhcpLeasing.Proofs.Lease.Json

/-!
# The canonical text of a hardware address

An address has many texts, and one of them is written. All texts that differ in letter case, in the
marks between the groups or in the blanks around them are read as one address.

* `HwAddr.Respells` says what may differ;
* `HwAddr.normalize_of_respells` says that the reader sees no difference;
* `HwAddr.text_canonical` says what that means for texts and for JSON.
-/

namespace DhcpLeasing

open Text

namespace HwAddr

/-! ## Other spellings -/

/-- Characters that mean the same in a hardware address: a letter in either case, or two marks. -/
def Alike (c d : Char) : Prop :=
  c.toLower = d.toLower ∨ IsMark c ∧ IsMark d

instance (c d : Char) : Decidable (Alike c d) :=
  inferInstanceAs (Decidable (_ ∨ _))

/-- What it means that `s'` is `s` with other marks, with letters in the other case and with blanks
around it. -/
def Respells (s s' : String) : Prop :=
  ∃ front body back : String, s' = front ++ body ++ back ∧ (∀ c ∈ front.toList, isBlank c) ∧
    (∀ c ∈ back.toList, isBlank c) ∧ List.Forall₂ Alike s.toList body.toList

variable {a b : HwAddr} {bs : List UInt8} {c d : Char} {cs : List Char} {s s' : String}

/-- The form in which a character of an address is looked at. -/
def canonicalChar (c : Char) : Char :=
  unifyMark c.toLower

lemma Alike.canonicalChar_eq (h : Alike c d) : canonicalChar c = canonicalChar d := by
  rcases h with h | ⟨hc, hd⟩
  · rw [canonicalChar, h, canonicalChar]
  · rcases hc with rfl | rfl <;> rcases hd with rfl | rfl <;> rfl

lemma canonicalChar_cases (c : Char) :
    canonicalChar c = c ∨ c.isUpper ∧ canonicalChar c = c.toLower ∨
      c = '-' ∧ canonicalChar c = ':' := by
  by_cases hupper : c.isUpper
  · obtain ⟨hlower, hge, hle⟩ := toNat_toLower_of_isUpper hupper
    have hdash : c.toLower ≠ '-' := by
      intro h
      rw [h] at hlower
      have hval : '-'.toNat = 45 := rfl
      omega
    exact .inr (.inl ⟨hupper, if_neg hdash⟩)
  · rw [canonicalChar, Char.toLower_eq_of_not_isUpper hupper, unifyMark]
    split
    · next hdash => exact .inr (.inr ⟨hdash, rfl⟩)
    · exact .inl rfl

lemma isBlank_canonicalChar (c : Char) : isBlank (canonicalChar c) = isBlank c := by
  rcases canonicalChar_cases c with h | ⟨hupper, h⟩ | ⟨rfl, h⟩
  · rw [h]
  · obtain ⟨hlower, hge, hle⟩ := toNat_toLower_of_isUpper hupper
    rw [h, isBlank_of_visible (by omega) (by omega), isBlank_of_visible (by omega) (by omega)]
  · rw [h]
    rfl

lemma toNat_canonicalChar_lt_iff : (canonicalChar c).toNat < 0x80 ↔ c.toNat < 0x80 := by
  rcases canonicalChar_cases c with h | ⟨-, h⟩ | ⟨rfl, h⟩
  · rw [h]
  · rw [h, toNat_toLower_lt_iff]
  · rw [h]
    decide

/-- What is seen of a text but for blanks at its ends is the same in every other spelling. -/
lemma Respells.map_trim_eq (h : Respells s s') :
    (trim s').toList.map canonicalChar = (trim s).toList.map canonicalChar := by
  obtain ⟨front, body, back, rfl, hfront, hback, hbody⟩ := h
  have hchars : body.toList.map canonicalChar = s.toList.map canonicalChar := by
    rw [← List.forall₂_eq_eq_eq, List.forall₂_map_left_iff, List.forall₂_map_right_iff]
    exact hbody.flip.imp fun _ _ (halike : Alike _ _) => halike.canonicalChar_eq.symm
  calc (trim (front ++ body ++ back)).toList.map canonicalChar
      = (trimEnds isBlank body.toList).map canonicalChar := by
        rw [trim, String.toList_ofList, String.toList_append, String.toList_append,
          trimEnds_append hfront hback]
    _ = trimEnds isBlank (body.toList.map canonicalChar) :=
        (trimEnds_map isBlank_canonicalChar _).symm
    _ = trimEnds isBlank (s.toList.map canonicalChar) := by rw [hchars]
    _ = (trimEnds isBlank s.toList).map canonicalChar := trimEnds_map isBlank_canonicalChar _
    _ = (trim s).toList.map canonicalChar := by rw [trim, String.toList_ofList]

/-! ## Texts that are read -/

/-- The characters of a text that spells an address stand in front of `i`. -/
lemma Spells.lt (h : Spells IsGroup cs bs) : ∀ c ∈ cs, c.toNat < 105 := by
  have hdigit : ∀ d < 16, (Nat.digitChar d).toNat < 105 := by decide
  have hgroup : ∀ {group byte}, IsGroup group byte → ∀ c ∈ group, c.toNat < 105 := by
    intro group byte hgroup
    cases hgroup with
    | pair hpair =>
      obtain ⟨hhigh, hlow⟩ := hpair
      simpa using ⟨hdigit _ hhigh, hdigit _ hlow⟩
    | plus hlow => simpa using hdigit _ hlow
  induction h with
  | last hlast => exact hgroup hlast
  | more hfirst hmark _ ih =>
    intro c hc
    rcases List.mem_append.1 hc with hc | hc
    · exact hgroup hfirst c hc
    · rcases List.mem_cons.1 hc with rfl | hc
      · rcases hmark with rfl | rfl <;> decide
      · exact ih c hc

lemma Spells.ne_nil {isGroup : List Char → UInt8 → Prop} (h : Spells isGroup cs bs) : bs ≠ [] := by
  cases h <;> simp

/-- What is read as an address is ASCII but for blanks at its ends. -/
lemma ascii_of_ofText (h : ofText s = .ok a) : ∀ c ∈ (trim s).toList, c.toNat < 0x80 :=
  ascii_of_lowercase (ofText_eq_ok_iff.1 h).lt

lemma normalize_of_ascii (h : ∀ c ∈ (trim s).toList, c.toNat < 0x80) :
    normalize s = (trim s).toList.map canonicalChar := by
  rw [normalize_eq, toList_lowercase_of_ascii h, List.map_map]
  rfl

/-- In every other spelling of an address the reader looks for bytes in the same characters. -/
lemma normalize_of_respells (h : ofText s = .ok a) (hspells : Respells s s') :
    normalize s' = normalize s := by
  have hascii := ascii_of_ofText h
  have hascii' : ∀ c ∈ (trim s').toList, c.toNat < 0x80 := by
    intro c hc
    have hmem : canonicalChar c ∈ (trim s).toList.map canonicalChar :=
      hspells.map_trim_eq ▸ List.mem_map_of_mem hc
    obtain ⟨d, hd, heq⟩ := List.mem_map.1 hmem
    rw [← toNat_canonicalChar_lt_iff, ← heq, toNat_canonicalChar_lt_iff]
    exact hascii d hd
  rw [normalize_of_ascii hascii', hspells.map_trim_eq, normalize_of_ascii hascii]

lemma ofText_of_respells (h : ofText s = .ok a) (hspells : Respells s s') : ofText s' = .ok a := by
  rw [ofText_eq_ok_iff, ← read_eq_some_iff] at h ⊢
  rwa [normalize_of_respells (ofText_eq_ok_iff.2 ((read_eq_some_iff s).1 h)) hspells]

/-- No text is read as the address without bytes. -/
lemma ne_nil_of_ofText (h : ofText s = .ok a) : a.bytes ≠ [] :=
  (ofText_eq_ok_iff.1 h).ne_nil

/-- Different addresses have different texts. -/
lemma toText_injective (ha : a.bytes ≠ []) (hb : b.bytes ≠ []) (h : a.toText = b.toText) :
    a = b := by
  have hread := ofText_toText ha
  rw [h, ofText_toText hb] at hread
  exact (Except.ok.inj hread).symm

/-! ## JSON -/

/-- The JSON text of an address. -/
def jsonText (a : HwAddr) : String :=
  Json.compact (.text a.toText)

/-- The address that a JSON text stands for. -/
def ofJsonText? (text : String) : Option HwAddr :=
  (Json.ofText? text).bind ofJson?

/-- A JSON string is read as its content. -/
lemma ofJsonText?_text (s : String) :
    ofJsonText? (Json.compact (.text s)) = (ofText s).toOption := by
  have hspelled : (Json.text s).Spelled := trivial
  rw [ofJsonText?, Json.ofText?_compact hspelled, Option.bind_some, ofJson?, Json.text?_text,
    Option.bind_some]

/-- No JSON text is read as the address without bytes. -/
lemma ne_nil_of_ofJsonText? {text : String} (h : ofJsonText? text = some a) : a.bytes ≠ [] := by
  obtain ⟨v, -, hv⟩ := Option.bind_eq_some_iff.1 h
  obtain ⟨s, -, hs⟩ := Option.bind_eq_some_iff.1 hv
  cases hread : ofText s with
  | error fault =>
    rw [hread] at hs
    cases hs
  | ok a' =>
    rw [hread] at hs
    obtain rfl : a' = a := Option.some.inj hs
    exact ne_nil_of_ofText hread

/-- **The text of a hardware address is canonical.** An address with any bytes is read from its text
as it was, so that no two addresses have the same text. Whatever text is read as an address, the
text of the address is read as the same one, and so is every text with other marks, with letters in
the other case or with blanks around it. JSON strings are read as their contents are: an address
with any bytes is read back, and the one without bytes is read from no text at all. -/
theorem text_canonical :
    (∀ {a : HwAddr}, a.bytes ≠ [] → ofText a.toText = .ok a) ∧
    (∀ {a b : HwAddr}, a.bytes ≠ [] → b.bytes ≠ [] → a.toText = b.toText → a = b) ∧
    (∀ {s a}, ofText s = .ok a →
      ofText a.toText = .ok a ∧ ∀ {s'}, Respells s s' → ofText s' = .ok a) ∧
    (∀ {a : HwAddr}, a.bytes ≠ [] → ofJsonText? a.jsonText = some a) ∧
    (∀ s, ofJsonText? (Json.compact (.text s)) = (ofText s).toOption) ∧
    ofJsonText? (jsonText ⟨[]⟩) = none ∧ ∀ text, ofJsonText? text ≠ some ⟨[]⟩ := by
  refine ⟨ofText_toText, toText_injective, ?_, ?_, ofJsonText?_text, ?_, ?_⟩
  · intro s a h
    exact ⟨ofText_toText (ne_nil_of_ofText h), ofText_of_respells h⟩
  · intro a ha
    rw [jsonText, ofJsonText?_text, ofText_toText ha]
    rfl
  · rw [jsonText, ofJsonText?_text]
    rfl
  · intro text h
    exact ne_nil_of_ofJsonText? h rfl

/-- Two bytes with a dash between them are those with a colon, in capitals and with blanks around
them. -/
theorem exists_text_canonical :
    (ofText "0a-bf" = .ok ⟨[10, 191]⟩ ∧ Respells "0a-bf" " 0A:Bf\u3000") ∧
      ofText " 0A:Bf\u3000" = .ok ⟨[10, 191]⟩ ∧ ofText "0a:bf" = .ok ⟨[10, 191]⟩ ∧
        ofJsonText? "\"0a:bf\"" = some ⟨[10, 191]⟩ := by
  obtain ⟨hread, -, hspell, hjson, -⟩ := text_canonical
  have hok : ofText "0a-bf" = .ok ⟨[10, 191]⟩ := by decide +kernel
  have hrespells : Respells "0a-bf" " 0A:Bf\u3000" :=
    ⟨" ", "0A:Bf", "\u3000", rfl, by simp [isBlank], by simp [isBlank], by decide +kernel⟩
  exact ⟨⟨hok, hrespells⟩, (hspell hok).2 hrespells, hread (a := ⟨[10, 191]⟩) (by decide),
    hjson (a := ⟨[10, 191]⟩) (by decide)⟩

end HwAddr

end DhcpLeasing
