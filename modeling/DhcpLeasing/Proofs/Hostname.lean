import DhcpLeasing.Hostname
import DhcpLeasing.Proofs.Text.Lowercase
import DhcpLeasing.Proofs.Text.Parts
import DhcpLeasing.Proofs.Text.Trimming

/-!
# Hostnames in normal form

A hostname that an operator's check has let through, and one that was made of a client's, are both
in the form that the check leaves alone:

* `Hostname.validate_eq_ok_iff`: what the check accepts, and what it makes of it;
* `Hostname.validate_of_validate` and `Hostname.validate_of_sanitize`: both kinds of hostname pass
  the check unchanged.
-/

namespace DhcpLeasing.Hostname

open Text

variable {text name : String} {label : List Char} {c : Char}

/-- A hostname: up to 253 bytes, all parts between dots of which are labels. -/
def IsName (name : String) : Prop :=
  name.utf8ByteSize ≤ longestName ∧ ∀ label ∈ name.toList.splitOn '.', isLabel label

/-- The check accepts a text that is empty or a hostname once it is trimmed and in lowercase. -/
lemma validate_eq_ok_iff :
    validate text = .ok name ↔ name = lowercase (trim text) ∧ (name = "" ∨ IsName name) := by
  unfold validate
  generalize lowercase (trim text) = low
  -- the two checks that follow the one for an empty text
  have hname : IsName low ↔
      ¬ longestName < low.utf8ByteSize ∧ (low.toList.splitOn '.').find? (!isLabel ·) = none := by
    simp [IsName]
  simp only [String.isEmpty_iff]
  split
  · next hempty =>
    rw [Except.ok.injEq]
    constructor
    · rintro rfl
      exact ⟨rfl, .inl hempty⟩
    · exact fun h => h.1.symm
  · next hne =>
    split
    · next hlong =>
      simp only [reduceCtorEq, false_iff, not_and]
      rintro rfl
      simp [hne, hname, hlong]
    · next hlong =>
      split
      · next label hfind =>
        simp only [reduceCtorEq, false_iff, not_and]
        rintro rfl
        simp [hne, hname, hfind]
      · next hfind =>
        rw [Except.ok.injEq]
        constructor
        · rintro rfl
          exact ⟨rfl, .inr (hname.2 ⟨hlong, hfind⟩)⟩
        · exact fun h => h.1.symm

/-! ## Characters of a hostname -/

lemma isLabelChar_of_mem (h : isLabel label) (hc : c ∈ label) : isLabelChar c := by
  simp only [isLabel, Bool.and_eq_true, List.all_eq_true] at h
  exact h.2 c hc

lemma IsName.char (h : IsName name) (hc : c ∈ name.toList) : c = '.' ∨ isLabelChar c := by
  have hparts : ['.'].intercalate (name.toList.splitOn '.') = name.toList :=
    List.intercalate_splitOn '.'
  rw [← hparts] at hc
  obtain heq | ⟨label, hlabel, hc⟩ := mem_intercalate hc
  · exact .inl heq
  · exact .inr (isLabelChar_of_mem (h.2 label hlabel) hc)

/-- Dots and the characters of labels are ASCII and not blank. -/
lemma ascii_of_char (h : c = '.' ∨ isLabelChar c) : c.toNat < 0x80 ∧ isBlank c = false := by
  have hval : c.val.toNat = c.toNat := rfl
  have hrange : 0x21 ≤ c.toNat ∧ c.toNat < 0x7F := by
    rcases h with rfl | h
    · decide
    · simp only [isLabelChar, Char.isAlphanum, Char.isAlpha, Char.isUpper, Char.isLower,
        Char.isDigit, Bool.or_eq_true, Bool.and_eq_true, decide_eq_true_eq, beq_iff_eq,
        ge_iff_le, UInt32.le_iff_toNat_le, hval] at h
      rcases h with h | rfl
      · simp at h
        omega
      · decide
  exact ⟨by omega, isBlank_of_visible hrange.1 hrange.2⟩

/-- A hostname without uppercase letters is in normal form. -/
lemma IsName.normal (h : IsName name) (hupper : ∀ c ∈ name.toList, c.isUpper = false) :
    lowercase (trim name) = name := by
  rw [trim_of_no_blank fun c hc => (ascii_of_char (h.char hc)).2]
  exact lowercase_of_ascii (fun c hc => (ascii_of_char (h.char hc)).1) hupper

lemma IsName.validate (h : IsName name) (hupper : ∀ c ∈ name.toList, c.isUpper = false) :
    validate name = .ok name :=
  validate_eq_ok_iff.2 ⟨(h.normal hupper).symm, .inr h⟩

/-! ## Both kinds of hostname -/

lemma validate_empty : validate "" = .ok "" := rfl

/-- What the check has accepted it accepts again, and leaves alone. -/
lemma validate_of_validate (h : validate text = .ok name) : validate name = .ok name := by
  obtain ⟨rfl, hempty | hname⟩ := validate_eq_ok_iff.1 h
  · rw [hempty, validate_empty]
  · apply hname.validate
    intro c hc
    exact isUpper_of_mem_lowercase hc

/-- What is kept of a label is a label, if anything is. -/
lemma isLabel_sanitizeLabel (h : sanitizeLabel label ≠ []) : isLabel (sanitizeLabel label) := by
  have hsub := trimEnds_sublist (· == '-')
    ((label.map fun c => if c.isAlphanum then c else '-').take longestLabel)
  simp only [isLabel, Bool.and_eq_true, Bool.not_eq_true', List.isEmpty_eq_false_iff,
    decide_eq_true_eq, bne_iff_ne, List.all_eq_true]
  refine ⟨⟨⟨⟨h, ?_⟩, ?_⟩, ?_⟩, ?_⟩
  · exact hsub.length_le.trans (List.length_take_le _ _)
  · intro hhead
    exact absurd (head?_trimEnds hhead) (by decide)
  · intro hlast
    exact absurd (getLast?_trimEnds hlast) (by decide)
  · intro c hc
    obtain ⟨d, -, rfl⟩ := List.mem_map.1 (List.mem_of_mem_take (hsub.subset hc))
    unfold isLabelChar
    split <;> simp_all

lemma isUpper_of_mem_sanitizeLabel (h : ∀ c ∈ label, c.isUpper = false)
    (hc : c ∈ sanitizeLabel label) : c.isUpper = false := by
  obtain ⟨d, hd, rfl⟩ :=
    List.mem_map.1 (List.mem_of_mem_take ((trimEnds_sublist _ _).subset hc))
  split
  · exact h d hd
  · rfl

/-- Labels of lowercase characters, put together with dots, make up a hostname that the check leaves
alone, unless it is too long. -/
lemma validate_intercalate {labels : List (List Char)} (hne : labels ≠ [])
    (hlabels : ∀ label ∈ labels, isLabel label)
    (hupper : ∀ label ∈ labels, ∀ c ∈ label, c.isUpper = false)
    (hlong : (String.ofList (['.'].intercalate labels)).utf8ByteSize ≤ longestName) :
    validate (String.ofList (['.'].intercalate labels)) =
      .ok (String.ofList (['.'].intercalate labels)) := by
  have hnodot : ∀ label ∈ labels, '.' ∉ label := by
    intro label hmem hdot
    exact absurd (isLabelChar_of_mem (hlabels label hmem) hdot) (by decide)
  -- no label has a dot of its own, so taking the text apart gives the labels back
  have hname : IsName (String.ofList (['.'].intercalate labels)) := by
    refine ⟨hlong, ?_⟩
    rwa [String.toList_ofList, List.splitOn_intercalate '.' hnodot hne]
  apply hname.validate
  intro c hc
  rw [String.toList_ofList] at hc
  obtain rfl | ⟨label, hmem, hc⟩ := mem_intercalate hc
  · rfl
  · exact hupper label hmem c hc

/-- What is made of a client's hostname the check accepts and leaves alone. -/
lemma validate_of_sanitize (h : sanitize text = some name) :
    validate name = .ok name ∧ name ≠ "" := by
  unfold sanitize at h
  -- all parts come from a text in lowercase
  have hlow : ∀ part ∈ (lowercase (trim text)).toList.splitOn '.', ∀ c ∈ part,
      c.isUpper = false := by
    intro part hpart c hc
    have hparts : ['.'].intercalate ((lowercase (trim text)).toList.splitOn '.') =
        (lowercase (trim text)).toList := List.intercalate_splitOn '.'
    exact isUpper_of_mem_lowercase (hparts ▸ mem_intercalate_of_mem hpart hc)
  generalize (lowercase (trim text)).toList.splitOn '.' = parts at h hlow
  simp only [Option.ite_none_left_eq_some, Bool.or_eq_true, String.isEmpty_iff, decide_eq_true_eq,
    not_or, not_lt, Option.some.injEq] at h
  obtain ⟨⟨hne, hlong⟩, rfl⟩ := h
  refine ⟨validate_intercalate ?_ ?_ ?_ hlong, hne⟩
  · intro hnil
    rw [hnil] at hne
    exact hne (by simp)
  · intro label hlabel
    obtain ⟨hmem, hnonempty⟩ := List.mem_filter.1 hlabel
    obtain ⟨part, -, rfl⟩ := List.mem_map.1 hmem
    exact isLabel_sanitizeLabel (by simpa using hnonempty)
  · intro label hlabel c hc
    obtain ⟨part, hpart, rfl⟩ := List.mem_map.1 (List.mem_of_mem_filter hlabel)
    exact isUpper_of_mem_sanitizeLabel (hlow part hpart) hc

end DhcpLeasing.Hostname
