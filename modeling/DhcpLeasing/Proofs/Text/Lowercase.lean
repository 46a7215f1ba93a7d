import DhcpLeasing.Proofs.Text.Parts
import DhcpLeasing.Text.Lowercase
import Mathlib

/-!
# Lowercased text

Lowercasing never empties a text and leaves no uppercase ASCII letter in it. What stands in front of
`i` comes from ASCII only, and ASCII text without uppercase letters stays as it is.
-/

namespace DhcpLeasing.Text

/-! ## Empty text -/

lemma lowerChar_ne_nil (c : Char) : lowerChar c ≠ [] := by
  unfold lowerChar
  repeat' split
  all_goals simp

lemma lowerFrom_eq_nil_iff {before cs : List Char} : lowerFrom before cs = [] ↔ cs = [] := by
  cases cs with
  | nil => simp [lowerFrom]
  | cons c rest =>
    rw [lowerFrom]
    split <;> simp [lowerChar_ne_nil]

/-- Lowercasing leaves something of every text that is not empty. -/
lemma lowercase_eq_empty_iff {s : String} : lowercase s = "" ↔ s = "" := by
  rw [lowercase, String.ofList_eq_empty_iff, lowerFrom_eq_nil_iff, String.toList_eq_nil_iff]

/-! ## Letters -/

lemma isUpper_eq_false_iff {c : Char} : c.isUpper = false ↔ c.toNat < 65 ∨ 90 < c.toNat := by
  have hval : c.val.toNat = c.toNat := rfl
  simp only [Char.isUpper, decide_eq_false_iff_not, not_and, ge_iff_le, UInt32.le_iff_toNat_le,
    hval]
  have hA : 'A'.val.toNat = 65 := rfl
  have hZ : 'Z'.val.toNat = 90 := rfl
  omega

lemma toNat_toLower_of_isUpper {c : Char} (h : c.isUpper) :
    c.toLower.toNat = c.toNat + 32 ∧ 65 ≤ c.toNat ∧ c.toNat ≤ 90 := by
  have hval : c.val.toNat = c.toNat := rfl
  have hrange : 65 ≤ c.toNat ∧ c.toNat ≤ 90 := by
    by_contra hnot
    rw [isUpper_eq_false_iff.2 (by omega)] at h
    cases h
  refine ⟨?_, hrange⟩
  have hupper : c.val ≥ 'A'.val ∧ c.val ≤ 'Z'.val := by simpa [Char.isUpper] using h
  have hshift : ('a'.val - 'A'.val).toNat = 32 := rfl
  rw [Char.toLower, dif_pos hupper]
  show (c.val + ('a'.val - 'A'.val)).toNat = c.toNat + 32
  rw [UInt32.toNat_add, hval, hshift]
  omega

/-! ## Above ASCII -/

/-- The mapping above ASCII leads to no character in front of `i`. -/
lemma caseRuns_above_hex :
    ∀ run ∈ caseRuns, 105 ≤ run.first + run.shift ∧
      (run.last + run.shift < 0xD800 ∨
        0xDFFF < run.first + run.shift ∧ run.last + run.shift < 0x110000) := by
  decide +kernel

/-- No character above ASCII has a lowercase form in front of `i`. -/
lemma le_of_mem_lowerChar {c d : Char} (hc : 0x80 ≤ c.toNat) (h : d ∈ lowerChar c) :
    105 ≤ d.toNat := by
  unfold lowerChar at h
  rw [if_neg (by omega)] at h
  split at h
  · rcases List.mem_pair.1 h with rfl | rfl <;> decide
  · cases hrun : caseRuns.find? (·.covers c.toNat) with
    | none =>
      rw [hrun] at h
      obtain rfl := List.mem_singleton.1 h
      omega
    | some run =>
      rw [hrun] at h
      obtain rfl := List.mem_singleton.1 h
      have hcovers := List.find?_some hrun
      simp only [CaseRun.covers, Bool.and_eq_true, decide_eq_true_eq] at hcovers
      obtain ⟨habove, hvalid⟩ := caseRuns_above_hex run (List.mem_of_find?_eq_some hrun)
      have hchar : (c.toNat + run.shift).toNat.isValidChar := by
        unfold Nat.isValidChar
        omega
      rw [Char.toNat_ofNat, if_pos hchar]
      omega

lemma le_lowerSigma (before after : List Char) : 105 ≤ (lowerSigma before after).toNat := by
  unfold lowerSigma
  split <;> decide

/-! ## No uppercase letters -/

lemma isUpper_of_mem_lowerChar {c d : Char} (h : d ∈ lowerChar c) : d.isUpper = false := by
  by_cases hc : c.toNat < 0x80
  · rw [lowerChar, if_pos hc] at h
    obtain rfl := List.mem_singleton.1 h
    exact Char.isUpper_toLower_eq_false c
  · have := le_of_mem_lowerChar (by omega) h
    exact isUpper_eq_false_iff.2 (by omega)

lemma isUpper_of_mem_lowerFrom {before cs : List Char} {d : Char} (h : d ∈ lowerFrom before cs) :
    d.isUpper = false := by
  induction cs generalizing before with
  | nil => simp [lowerFrom] at h
  | cons c rest ih =>
    rw [lowerFrom, List.mem_append] at h
    rcases h with h | h
    · split at h
      · obtain rfl := List.mem_singleton.1 h
        have := le_lowerSigma before rest
        exact isUpper_eq_false_iff.2 (by omega)
      · exact isUpper_of_mem_lowerChar h
    · exact ih h

/-- No uppercase ASCII letter is left in a lowercased text. -/
lemma isUpper_of_mem_lowercase {s : String} {c : Char} (h : c ∈ (lowercase s).toList) :
    c.isUpper = false := by
  rw [lowercase, String.toList_ofList] at h
  exact isUpper_of_mem_lowerFrom h

/-! ## Characters that stay as they are -/

lemma mem_lowerChar_iff {c d : Char} (hd : d.toNat < 65) : d ∈ lowerChar c ↔ d = c := by
  by_cases hc : c.toNat < 0x80
  · rw [lowerChar, if_pos hc, List.mem_singleton]
    by_cases hupper : c.isUpper
    · -- neither the letter nor its lowercase form stands in front of the letters
      have hlower := toNat_toLower_of_isUpper hupper
      constructor <;> rintro rfl <;> omega
    · rw [Char.toLower_eq_of_not_isUpper hupper]
  · constructor
    · intro h
      have := le_of_mem_lowerChar (by omega) h
      omega
    · rintro rfl
      omega

lemma mem_lowerFrom_iff {before cs : List Char} {d : Char} (hd : d.toNat < 65) :
    d ∈ lowerFrom before cs ↔ d ∈ cs := by
  induction cs generalizing before with
  | nil => simp [lowerFrom]
  | cons c rest ih =>
    rw [lowerFrom, List.mem_append, List.mem_cons, ih]
    split
    · next hsigma =>
      have hne : ∀ before after, d ≠ lowerSigma before after := by
        rintro before after rfl
        have := le_lowerSigma before after
        omega
      have hne' : d ≠ c := by
        rintro rfl
        exact absurd hd (by rw [hsigma]; decide)
      simp [hne, hne']
    · rw [mem_lowerChar_iff hd]

/-- What stands in front of the letters in ASCII is neither taken away nor brought in. -/
lemma mem_lowercase_iff {s : String} {d : Char} (hd : d.toNat < 65) :
    d ∈ (lowercase s).toList ↔ d ∈ s.toList := by
  rw [lowercase, String.toList_ofList, mem_lowerFrom_iff hd]

/-! ## ASCII text -/

lemma toNat_toLower_lt_iff {c : Char} : c.toLower.toNat < 0x80 ↔ c.toNat < 0x80 := by
  by_cases h : c.isUpper
  · have hlower := toNat_toLower_of_isUpper h
    omega
  · rw [Char.toLower_eq_of_not_isUpper h]

lemma ascii_of_lowerFrom {before cs : List Char} (h : ∀ d ∈ lowerFrom before cs, d.toNat < 105) :
    ∀ c ∈ cs, c.toNat < 0x80 := by
  induction cs generalizing before with
  | nil => simp
  | cons c rest ih =>
    rw [lowerFrom] at h
    simp only [List.mem_append] at h
    rw [List.forall_mem_cons]
    refine ⟨?_, ih fun d hd => h d (.inr hd)⟩
    by_contra hc
    split at h
    · have := h _ (.inl (List.mem_singleton_self _))
      have := le_lowerSigma before rest
      omega
    · obtain ⟨d, hd⟩ := List.exists_mem_of_ne_nil _ (lowerChar_ne_nil c)
      have := h d (.inl hd)
      have := le_of_mem_lowerChar (by omega) hd
      omega

/-- A text that is lowercased to characters in front of `i` is ASCII. -/
lemma ascii_of_lowercase {s : String} (h : ∀ d ∈ (lowercase s).toList, d.toNat < 105) :
    ∀ c ∈ s.toList, c.toNat < 0x80 := by
  rw [lowercase, String.toList_ofList] at h
  exact ascii_of_lowerFrom h

lemma toList_lowercase_of_ascii {s : String} (h : ∀ c ∈ s.toList, c.toNat < 0x80) :
    (lowercase s).toList = s.toList.map Char.toLower := by
  rw [lowercase, lowerFrom_of_ascii h, String.toList_ofList]

lemma lowercase_of_ascii {s : String} (hascii : ∀ c ∈ s.toList, c.toNat < 0x80)
    (hupper : ∀ c ∈ s.toList, c.isUpper = false) : lowercase s = s := by
  have hkept : ∀ c ∈ s.toList, c.toLower = c :=
    fun c hc => Char.toLower_eq_of_not_isUpper (by simp [hupper c hc])
  rw [lowercase, lowerFrom_of_ascii hascii, map_eq_self hkept, String.ofList_toList]

end DhcpLeasing.Text
