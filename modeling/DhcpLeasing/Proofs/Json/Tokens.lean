import DhcpLeasing.Json.Printer
import DhcpLeasing.Json.Reader
import DhcpLeasing.Proofs.Text.Digits

/-!
# Strings and numbers in JSON, written and read

A string is read as it was, whatever characters it holds, and so is a number that is spelled as the
grammar wants it.
-/

namespace DhcpLeasing.Json

open Text

variable {c : Char} {cs ds rest : List Char}

/-! ## Strings -/

/-- The piece of a string that a character is written as. -/
def pieceOf (c : Char) : Piece :=
  if c.toNat < 0x20 ∧ c.toNat ∉ [8, 9, 10, 12, 13] then .unit c.toNat else .char c

lemma readPieces_short {d : Char} (hd : d ≠ 'u') (hshort : shortEscape? d = some c)
    (cs : List Char) :
    readPieces ('\\' :: d :: cs) = (readPieces cs).map fun r => (.char c :: r.1, r.2) := by
  rw [readPieces]
  · rw [hshort]
    cases readPieces cs <;> rfl
  · intro a b c d rest hu
    exact absurd hu hd

lemma readPieces_unit {a b d e : Char} {n : ℕ} (h : ofHex? [a, b, d, e] = some n) (cs : List Char) :
    readPieces ('\\' :: 'u' :: a :: b :: d :: e :: cs) =
      (readPieces cs).map fun r => (.unit n :: r.1, r.2) := by
  rw [readPieces, h]
  cases readPieces cs <;> rfl

lemma readPieces_raw (hcontrol : 0x20 ≤ c.toNat) (hquote : c ≠ '"') (hslash : c ≠ '\\')
    (cs : List Char) :
    readPieces (c :: cs) = (readPieces cs).map fun r => (.char c :: r.1, r.2) := by
  have hguard : (0x20 ≤ c.toNat && c != '\\') = true := by simpa [hslash] using hcontrol
  rw [readPieces]
  · rw [hguard]
    cases readPieces cs <;> rfl
  · intro hc
    exact absurd hc hquote
  · intro a b d e rest hc
    exact absurd hc hslash
  · intro d rest hc
    exact absurd hc hslash

/-- The escapes of most control characters spell their numbers. -/
lemma escapeChar_control (h : c.toNat < 0x20) (hnot : c.toNat ∉ [8, 9, 10, 12, 13]) :
    ∃ a b d e, escapeChar c = ['\\', 'u', a, b, d, e] ∧ ofHex? [a, b, d, e] = some c.toNat := by
  have hall : ∀ n < 0x20, n ∉ [8, 9, 10, 12, 13] → escapeChar (Char.ofNat n) =
        ['\\', 'u', '0', '0', Nat.digitChar (n / 16), Nat.digitChar (n % 16)] ∧
      ofHex? ['0', '0', Nat.digitChar (n / 16), Nat.digitChar (n % 16)] = some n := by decide
  obtain ⟨hescape, hhex⟩ := hall c.toNat h hnot
  rw [Char.ofNat_toNat] at hescape
  exact ⟨_, _, _, _, hescape, hhex⟩

/-- The characters with an escape of their own. -/
def shortEscaped : List Char := ['"', '\\', '\n', '\r', '\t', '\x08', '\x0c']

lemma escapeChar_raw (h : 0x20 ≤ c.toNat) (hshort : c ∉ shortEscaped) : escapeChar c = [c] := by
  simp only [shortEscaped, List.mem_cons, List.not_mem_nil, or_false, not_or] at hshort
  obtain ⟨hquote, hslash, hline, hreturn, htab, -, -⟩ := hshort
  rw [escapeChar, if_neg (by simp [hquote, hslash]), if_neg hline, if_neg hreturn, if_neg htab,
    if_neg (by omega), if_neg (by omega), if_neg (by omega)]

/-- A character is read back as its piece. -/
lemma readPieces_escapeChar (c : Char) (cs : List Char) :
    readPieces (escapeChar c ++ cs) = (readPieces cs).map fun r => (pieceOf c :: r.1, r.2) := by
  by_cases hshort : c ∈ shortEscaped
  · simp only [shortEscaped, List.mem_cons, List.not_mem_nil, or_false] at hshort
    rcases hshort with rfl | rfl | rfl | rfl | rfl | rfl | rfl <;>
      exact readPieces_short (by decide) rfl cs
  · by_cases hcontrol : c.toNat < 0x20
    · have hnot : c.toNat ∉ [8, 9, 10, 12, 13] := by
        have hall : ∀ n ∈ [8, 9, 10, 12, 13], Char.ofNat n ∈ shortEscaped := by decide
        intro hmem
        have hc := hall c.toNat hmem
        rw [Char.ofNat_toNat] at hc
        exact hshort hc
      obtain ⟨a, b, d, e, hescape, hhex⟩ := escapeChar_control hcontrol hnot
      rw [hescape, pieceOf, if_pos ⟨hcontrol, hnot⟩]
      exact readPieces_unit hhex cs
    · have hraw : 0x20 ≤ c.toNat := by omega
      rw [escapeChar_raw hraw hshort, pieceOf, if_neg fun h => hcontrol h.1]
      refine readPieces_raw hraw ?_ ?_ cs
      · exact fun hc => hshort (by simp [hc, shortEscaped])
      · exact fun hc => hshort (by simp [hc, shortEscaped])

lemma readPieces_escaped (s rest : List Char) :
    readPieces (s.flatMap escapeChar ++ '"' :: rest) = some (s.map pieceOf, rest) := by
  induction s with
  | nil => rfl
  | cons c s ih =>
    rw [List.flatMap_cons, List.append_assoc, readPieces_escapeChar, ih]
    rfl

/-- Pieces of characters stand for them. -/
lemma joinPieces_pieceOf (s : List Char) : joinPieces none (s.map pieceOf) = some s := by
  induction s with
  | nil => rfl
  | cons c s ih =>
    rw [List.map_cons, pieceOf]
    split
    · next hcontrol =>
      have hhigh : isHighHalf c.toNat = false := by
        simp only [isHighHalf, Bool.and_eq_false_iff, decide_eq_false_iff_not]
        omega
      have hlow : isLowHalf c.toNat = false := by
        simp only [isLowHalf, Bool.and_eq_false_iff, decide_eq_false_iff_not]
        omega
      simp only [joinPieces, hhigh, hlow, ih, Char.ofNat_toNat]
      rfl
    · simp only [joinPieces, ih]
      rfl

/-- **A string or a name is read as it was written**, up to the closing quote. -/
theorem readString_renderContent (content : Option String) (rest : List Char) :
    ∃ text, renderContent content = '"' :: text ∧
      readString (text ++ rest) = some (content, rest) := by
  cases content with
  | none => exact ⟨_, rfl, rfl⟩
  | some s =>
    refine ⟨s.toList.flatMap escapeChar ++ ['"'], rfl, ?_⟩
    rw [List.append_assoc, List.singleton_append, readString, readPieces_escaped, Option.map_some]
    simp only [joinPieces_pieceOf, Option.map_some, String.ofList_toList]

/-! ## Numbers -/

/-- One digit or more. -/
def IsDigits (ds : List Char) : Prop :=
  ds ≠ [] ∧ ∀ c ∈ ds, c.isDigit

/-- What it means that a number is spelled as the grammar wants it. -/
structure WellSpelled (n : JsonNumber) : Prop where
  whole : IsDigits n.whole
  leading : n.whole.head? ≠ some '0' ∨ n.whole.length = 1
  fraction : ∀ ds, n.fraction = some ds → IsDigits ds
  exponent : ∀ negative ds, n.exponent = some (negative, ds) → IsDigits ds

/-- Natural numbers are spelled as the grammar wants it. -/
lemma wellSpelled_ofNat (n : ℕ) : WellSpelled (.ofNat n) where
  whole := ⟨decimal_ne_nil n, fun _ hc => isDigit_of_mem_decimal hc⟩
  leading := by
    by_cases hzero : (decimal n).head? = some '0'
    · rw [eq_zero_of_head?_decimal hzero]
      exact .inr rfl
    · exact .inl hzero
  fraction := by simp [JsonNumber.ofNat]
  exponent := by simp [JsonNumber.ofNat]

/-- What no number goes on with. -/
def EndsValue (rest : List Char) : Prop :=
  ∀ c ∈ rest.head?, ¬ c.isDigit ∧ c ≠ '.' ∧ c ≠ 'e' ∧ c ≠ 'E'

lemma EndsValue.digits (h : EndsValue rest) : EndsDigits rest :=
  fun c hc => (h c hc).1

lemma readDigits_append (hds : IsDigits ds) (hrest : EndsDigits rest) :
    readDigits (ds ++ rest) = some (ds, rest) := by
  obtain ⟨d, ds, rfl⟩ := List.exists_cons_of_ne_nil hds.1
  rw [readDigits, takeWhile_isDigit_append hds.2 hrest, dropWhile_isDigit_append hds.2 hrest]

/-- The exponent as it is written. -/
def renderExponent : Option (Bool × List Char) → List Char
  | some (negative, digits) => 'e' :: (if negative then ['-'] else []) ++ digits
  | none => []

/-- The fraction as it is written. -/
def renderFraction : Option (List Char) → List Char
  | some digits => '.' :: digits
  | none => []

lemma renderNumber_eq (n : JsonNumber) : renderNumber n =
    (if n.negative then ['-'] else []) ++
      (n.whole ++ (renderFraction n.fraction ++ renderExponent n.exponent)) := by
  obtain ⟨negative, whole, fraction, exponent⟩ := n
  cases fraction <;> cases exponent <;> simp [renderNumber, renderFraction, renderExponent]

lemma readExponent_append {exponent : Option (Bool × List Char)}
    (h : ∀ negative ds, exponent = some (negative, ds) → IsDigits ds) (hrest : EndsValue rest) :
    readExponent (renderExponent exponent ++ rest) = some (exponent, rest) := by
  cases exponent with
  | none =>
    rw [renderExponent, List.nil_append, readExponent]
    · intro tail heq
      exact (hrest 'e' (by rw [heq]; rfl)).2.2.1 rfl
    · intro tail heq
      exact (hrest 'E' (by rw [heq]; rfl)).2.2.2 rfl
  | some e =>
    obtain ⟨negative, ds⟩ := e
    have hds := h negative ds rfl
    have hread := readDigits_append hds hrest.digits
    cases negative with
    | true =>
      show (readDigits (ds ++ rest)).map _ = _
      rw [hread]
      rfl
    | false =>
      show readExponentDigits (ds ++ rest) = _
      rw [readExponentDigits, hread]
      · rfl
      · intro tail heq
        exact ne_of_digits hds.2 hds.1 (by decide) _ _ heq
      · intro tail heq
        exact ne_of_digits hds.2 hds.1 (by decide) _ _ heq

lemma head?_renderExponent (exponent : Option (Bool × List Char)) (hrest : EndsValue rest) :
    ∀ c ∈ (renderExponent exponent ++ rest).head?, ¬ c.isDigit ∧ c ≠ '.' := by
  intro c hc
  cases exponent with
  | none => exact ⟨(hrest c hc).1, (hrest c hc).2.1⟩
  | some e =>
    obtain rfl : 'e' = c := by simpa [renderExponent] using hc
    decide

lemma readFraction_append {fraction : Option (List Char)}
    (h : ∀ ds, fraction = some ds → IsDigits ds)
    (hrest : ∀ c ∈ rest.head?, ¬ c.isDigit ∧ c ≠ '.') :
    readFraction (renderFraction fraction ++ rest) = some (fraction, rest) := by
  cases fraction with
  | none =>
    rw [renderFraction, List.nil_append, readFraction]
    intro tail heq
    exact (hrest '.' (by rw [heq]; rfl)).2 rfl
  | some ds =>
    show (readDigits (ds ++ rest)).map _ = _
    rw [readDigits_append (h ds rfl) fun c hc => (hrest c hc).1]
    rfl

/-- **A number is read as it was spelled**, up to what ends it. -/
theorem readNumber_renderNumber {n : JsonNumber} (h : WellSpelled n) (hrest : EndsValue rest) :
    readNumber (renderNumber n ++ rest) = some (n, rest) := by
  have hexponent := head?_renderExponent n.exponent hrest
  have hdigits : EndsDigits (renderFraction n.fraction ++ (renderExponent n.exponent ++ rest)) := by
    intro c hc
    cases hfraction : n.fraction with
    | none =>
      rw [hfraction] at hc
      exact (hexponent c hc).1
    | some ds =>
      obtain rfl : '.' = c := by simpa [hfraction, renderFraction] using hc
      decide
  have hunsigned : ∀ negative, readUnsigned negative
      (n.whole ++ (renderFraction n.fraction ++ (renderExponent n.exponent ++ rest))) =
        some (⟨negative, n.whole, n.fraction, n.exponent⟩, rest) := by
    intro negative
    rw [readUnsigned, readDigits_append h.whole hdigits]
    dsimp only [Option.bind_eq_bind, Option.bind_some]
    rw [readFraction_append h.fraction hexponent]
    dsimp only [Option.bind_eq_bind, Option.bind_some]
    rw [readExponent_append h.exponent hrest]
    simp [guard, h.leading]
  obtain ⟨negative, whole, fraction, exponent⟩ := n
  rw [renderNumber_eq, List.append_assoc, List.append_assoc, List.append_assoc]
  cases negative with
  | true => exact hunsigned true
  | false =>
    rw [if_neg (by simp), List.nil_append, readNumber]
    · exact hunsigned false
    · intro tail heq
      exact ne_of_digits h.whole.2 h.whole.1 (by decide) _ _ heq

end DhcpLeasing.Json
