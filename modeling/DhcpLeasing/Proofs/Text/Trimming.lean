import DhcpLeasing.Text.Blank
import Mathlib

/-!
# Trimmed text

A trimmed text is a part of the original, with no unwanted character at either end.
-/

namespace DhcpLeasing.Text

variable {p : Char → Bool} {cs : List Char} {c : Char}

lemma trimEnds_eq_rdropWhile (p : Char → Bool) (cs : List Char) :
    trimEnds p cs = (cs.dropWhile p).rdropWhile p := rfl

lemma trimEnds_sublist (p : Char → Bool) (cs : List Char) : (trimEnds p cs).Sublist cs := by
  rw [trimEnds_eq_rdropWhile]
  exact (List.rdropWhile_prefix p _).sublist.trans (List.dropWhile_sublist p)

/-- Trimming takes away unwanted characters only. -/
lemma mem_trimEnds_iff (hc : p c = false) : c ∈ trimEnds p cs ↔ c ∈ cs := by
  have hdrop : ∀ l : List Char, c ∈ l.dropWhile p ↔ c ∈ l := by
    intro l
    have hnot : c ∉ l.takeWhile p := by
      intro hmem
      rw [List.mem_takeWhile_imp hmem] at hc
      cases hc
    conv_rhs => rw [← List.takeWhile_append_dropWhile (p := p) (l := l)]
    rw [List.mem_append, or_iff_right hnot]
  rw [trimEnds, List.mem_reverse, hdrop, List.mem_reverse, hdrop]

lemma mem_trim_iff {s : String} (hc : isBlank c = false) :
    c ∈ (trim s).toList ↔ c ∈ s.toList := by
  rw [trim, String.toList_ofList, mem_trimEnds_iff hc]

lemma head?_trimEnds (h : (trimEnds p cs).head? = some c) : p c = false := by
  rw [trimEnds_eq_rdropWhile] at h
  obtain ⟨rest, hrest⟩ : (cs.dropWhile p).rdropWhile p <+: cs.dropWhile p :=
    List.rdropWhile_prefix p _
  -- cutting off the other end leaves the first character in its place
  have hhead : (cs.dropWhile p).head? = some c := by
    rw [← hrest, List.head?_append, h, Option.some_or]
  have hnot := List.head?_dropWhile_not p cs
  rw [hhead] at hnot
  exact hnot

lemma getLast?_trimEnds (h : (trimEnds p cs).getLast? = some c) : p c = false := by
  rw [trimEnds_eq_rdropWhile] at h
  obtain ⟨hne, rfl⟩ := List.mem_getLast?_eq_getLast (Option.mem_def.2 h)
  simpa using List.rdropWhile_last_not p _ hne

/-- Trimming does nothing where there is nothing to take away at the ends. -/
lemma trimEnds_eq_self_of_ends (hhead : ∀ c ∈ cs.head?, p c = false)
    (hlast : ∀ c ∈ cs.getLast?, p c = false) : trimEnds p cs = cs := by
  have hdrop : cs.dropWhile p = cs := by
    cases cs with
    | nil => rfl
    | cons c rest => rw [List.dropWhile_cons_of_neg (by simp [hhead c rfl])]
  rw [trimEnds_eq_rdropWhile, hdrop, List.rdropWhile_eq_self_iff]
  exact fun hne => by simp [hlast _ (List.getLast_mem_getLast? hne)]

lemma trimEnds_eq_self (h : ∀ c ∈ cs, p c = false) : trimEnds p cs = cs :=
  trimEnds_eq_self_of_ends (fun c hc => h c (List.mem_of_head? hc))
    fun c hc => h c (List.mem_of_getLast? hc)

/-- Unwanted characters at the ends make no difference. -/
lemma trimEnds_append {front body back : List Char} (hfront : ∀ c ∈ front, p c = true)
    (hback : ∀ c ∈ back, p c = true) : trimEnds p (front ++ body ++ back) = trimEnds p body := by
  have hreverse : ∀ c ∈ back.reverse, p c = true := fun c hc => hback c (List.mem_reverse.1 hc)
  rw [trimEnds, trimEnds, List.append_assoc, List.dropWhile_append_of_pos hfront,
    List.dropWhile_append]
  split
  · next hempty =>
    rw [List.isEmpty_iff.1 hempty, List.dropWhile_eq_nil_iff.2 hback]
  · rw [List.reverse_append, List.dropWhile_append_of_pos hreverse]

/-- A change that leaves the unwanted characters unwanted, and the others wanted, can be made before
or after trimming. -/
lemma trimEnds_map {f : Char → Char} (h : ∀ c, p (f c) = p c) (cs : List Char) :
    trimEnds p (cs.map f) = (trimEnds p cs).map f := by
  have hcomp : p ∘ f = p := funext h
  rw [trimEnds, trimEnds, List.dropWhile_map, hcomp, ← List.map_reverse, List.dropWhile_map, hcomp,
    ← List.map_reverse]

lemma isBlank_of_visible (hge : 0x21 ≤ c.toNat) (hlt : c.toNat < 0x7F) : isBlank c = false := by
  simp only [isBlank, Bool.or_eq_false_iff, Bool.and_eq_false_iff, decide_eq_false_iff_not,
    beq_eq_false_iff_ne]
  omega

lemma trim_of_no_blank {s : String} (h : ∀ c ∈ s.toList, isBlank c = false) : trim s = s := by
  rw [trim, trimEnds_eq_self h, String.ofList_toList]

end DhcpLeasing.Text
