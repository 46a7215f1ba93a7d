import DhcpLeasing.Proofs.Hostname
import DhcpLeasing.Service.Basic

/-!
# The local domain

A hostname may be asked for with the local domain at its end, in any letter case. `stripDomain` cuts
a name at its last dot, so it takes the domain away exactly if that is a single label:

* `Text.SameLetters`: texts that differ in the case of ASCII letters at most;
* `Config.Qualifies`: what it means that a name is a hostname with the local domain at its end;
* `stripDomain_of_qualifies` and `stripDomain_of_not`: such a name becomes the hostname, and every
  other name stays as it is.
-/

namespace DhcpLeasing

open Text

/-! ## Letter case -/

/-- Whether two texts are the same, the case of ASCII letters aside. -/
def Text.SameLetters (a b : String) : Prop :=
  a.toList.map Char.toLower = b.toList.map Char.toLower

namespace Text

variable {a b : String} {c : Char}

/-- A character in lowercase takes as many bytes. -/
lemma utf8Size_toLower (c : Char) : c.toLower.utf8Size = c.utf8Size := by
  by_cases h : c.isUpper
  · obtain ⟨hlower, -, hle⟩ := toNat_toLower_of_isUpper h
    have hone : ∀ d : Char, d.toNat < 128 → d.utf8Size = 1 := by
      intro d hd
      exact Char.utf8Size_eq_one_iff.2 (UInt32.le_iff_toNat_le.2 (Nat.le_of_lt_succ hd))
    rw [hone c (by omega), hone c.toLower (by omega)]
  · rw [Char.toLower_eq_of_not_isUpper h]

lemma utf8Len_map_toLower (cs : List Char) :
    String.utf8Len (cs.map Char.toLower) = String.utf8Len cs := by
  induction cs with
  | nil => rfl
  | cons c rest ih => rw [List.map_cons, String.utf8Len_cons, String.utf8Len_cons, ih, utf8Size_toLower]

lemma SameLetters.utf8ByteSize_eq (h : SameLetters a b) : a.utf8ByteSize = b.utf8ByteSize := by
  have hlen : String.utf8Len a.toList = String.utf8Len b.toList := by
    rw [← utf8Len_map_toLower, h, utf8Len_map_toLower]
  rwa [← String.utf8ByteSize_ofList, ← String.utf8ByteSize_ofList, String.ofList_toList,
    String.ofList_toList] at hlen

/-- Text that is ASCII up to its case is ASCII. -/
lemma SameLetters.ascii (h : SameLetters a b) (hb : ∀ c ∈ b.toList, c.toNat < 0x80) :
    ∀ c ∈ a.toList, c.toNat < 0x80 := by
  intro c hc
  have hmem : c.toLower ∈ b.toList.map Char.toLower := h ▸ List.mem_map.2 ⟨c, hc, rfl⟩
  obtain ⟨d, hd, heq⟩ := List.mem_map.1 hmem
  rw [← toNat_toLower_lt_iff, ← heq, toNat_toLower_lt_iff]
  exact hb d hd

lemma SameLetters.lowercase_eq (h : SameLetters a b) (hb : ∀ c ∈ b.toList, c.toNat < 0x80) :
    lowercase a = lowercase b := by
  rw [lowercase, lowercase, lowerFrom_of_ascii (h.ascii hb), lowerFrom_of_ascii hb, h]

/-- Only a dot becomes a dot in lowercase. -/
lemma dot_mem_map_toLower {cs : List Char} : '.' ∈ cs.map Char.toLower ↔ '.' ∈ cs := by
  constructor
  · intro h
    obtain ⟨c, hc, hdot⟩ := List.mem_map.1 h
    by_cases hupper : c.isUpper
    · obtain ⟨hlower, hge, -⟩ := toNat_toLower_of_isUpper hupper
      have hval : '.'.toNat = 46 := rfl
      rw [hdot, hval] at hlower
      omega
    · rw [Char.toLower_eq_of_not_isUpper hupper] at hdot
      exact hdot ▸ hc
  · intro h
    exact List.mem_map.2 ⟨'.', h, rfl⟩

end Text

/-! ## Cutting at the last dot -/

namespace Service

variable {cs before after : List Char}

/-- A text is cut at the one dot that no other one follows. -/
lemma splitLastDot_eq_some_iff :
    splitLastDot cs = some (before, after) ↔ cs = before ++ '.' :: after ∧ '.' ∉ after := by
  unfold splitLastDot
  rw [List.span_eq_takeWhile_dropWhile]
  constructor
  · intro h
    split at h
    · cases h
    · next last dot rest heq =>
      obtain ⟨htake, hdrop⟩ := Prod.mk.inj heq
      obtain ⟨rfl, rfl⟩ := Prod.mk.inj (Option.some.inj h)
      obtain rfl : dot = '.' := by
        have hnot := List.head?_dropWhile_not (· != '.') cs.reverse
        rw [hdrop] at hnot
        simpa using hnot
      refine ⟨?_, ?_⟩
      · have hparts : cs.reverse = last ++ '.' :: rest := by
          rw [← htake, ← hdrop, List.takeWhile_append_dropWhile]
        rw [← List.reverse_reverse cs, hparts]
        simp
      · intro hmem
        rw [List.mem_reverse, ← htake] at hmem
        simpa using List.mem_takeWhile_imp hmem
  · rintro ⟨rfl, hdot⟩
    have hkept : ∀ c ∈ after.reverse, (c != '.') = true := by
      intro c hc
      simp only [bne_iff_ne, ne_eq]
      rintro rfl
      exact hdot (List.mem_reverse.1 hc)
    have hreverse : (before ++ '.' :: after).reverse = after.reverse ++ '.' :: before.reverse := by
      simp
    rw [hreverse, List.takeWhile_append_of_pos hkept, List.dropWhile_append_of_pos hkept]
    simp

end Service

/-! ## Names with the local domain -/

/-- The local domain, which may be written with dots at either end. -/
def Config.domain (c : Config) : String :=
  String.ofList (trimEnds (· == '.') c.localDomain.toList)

/-- What it means that a name is a hostname with the local domain at its end. A domain of several
labels does not count, since a name is cut at its last dot. -/
structure Config.Qualifies (c : Config) (hostname name : String) : Prop where
  hostname_ne : hostname ≠ ""
  domain_ne : c.domain ≠ ""
  label : '.' ∉ c.domain.toList
  name_eq : ∃ suffix, SameLetters suffix c.domain ∧ name = hostname ++ "." ++ suffix

namespace Service

variable {c : Config} {hostname name : String}

lemma stripDomain_eq (c : Config) (name : String) : stripDomain c.localDomain name =
    if c.domain.isEmpty || name.utf8ByteSize ≤ c.domain.utf8ByteSize + 1 then name
    else
      match splitLastDot name.toList with
      | some (before, last) =>
        if !before.isEmpty && last.map Char.toLower = c.domain.toList.map Char.toLower then
          String.ofList before
        else name
      | none => name := rfl

/-- The local domain is taken away. -/
theorem stripDomain_of_qualifies (h : c.Qualifies hostname name) :
    stripDomain c.localDomain name = hostname := by
  obtain ⟨suffix, hsame, rfl⟩ := h.name_eq
  have hlong : c.domain.utf8ByteSize + 1 < (hostname ++ "." ++ suffix).utf8ByteSize := by
    have hpos : hostname.utf8ByteSize ≠ 0 := by
      rw [Ne, String.utf8ByteSize_eq_zero_iff]
      exact h.hostname_ne
    have hdot : (".").utf8ByteSize = 1 := rfl
    rw [String.utf8ByteSize_append, String.utf8ByteSize_append, hdot, hsame.utf8ByteSize_eq]
    omega
  have hsplit : splitLastDot (hostname ++ "." ++ suffix).toList =
      some (hostname.toList, suffix.toList) := by
    apply splitLastDot_eq_some_iff.2
    refine ⟨by simp, ?_⟩
    rw [← dot_mem_map_toLower, hsame, dot_mem_map_toLower]
    exact h.label
  have hshort : ¬ (c.domain.isEmpty || (hostname ++ "." ++ suffix).utf8ByteSize ≤
      c.domain.utf8ByteSize + 1) = true := by
    rw [Bool.or_eq_true, String.isEmpty_iff, decide_eq_true_eq, not_or, not_le]
    exact ⟨h.domain_ne, hlong⟩
  have hcut : (!hostname.toList.isEmpty &&
      suffix.toList.map Char.toLower = c.domain.toList.map Char.toLower) = true := by
    rw [Bool.and_eq_true]
    exact ⟨by simpa using h.hostname_ne, decide_eq_true hsame⟩
  rw [stripDomain_eq, if_neg hshort, hsplit]
  simp only [hcut, if_true, String.ofList_toList]

/-- A name without the local domain stays as it is. -/
theorem stripDomain_of_not (h : ¬ ∃ hostname, c.Qualifies hostname name) :
    stripDomain c.localDomain name = name := by
  rw [stripDomain_eq]
  split
  · rfl
  · next hlong =>
    split
    · next before last hsplit =>
      split
      · next hcut =>
        -- where a domain is cut off, the name has been qualified by it
        exfalso
        apply h
        obtain ⟨hname, hdot⟩ := splitLastDot_eq_some_iff.1 hsplit
        simp only [Bool.and_eq_true, Bool.not_eq_true', List.isEmpty_eq_false_iff,
          decide_eq_true_eq] at hcut
        simp only [Bool.or_eq_true, String.isEmpty_iff, not_or] at hlong
        refine ⟨String.ofList before, ?_, hlong.1, ?_, String.ofList last, ?_, ?_⟩
        · rw [Ne, String.ofList_eq_empty_iff]
          exact hcut.1
        · rwa [← dot_mem_map_toLower, ← hcut.2, dot_mem_map_toLower]
        · rw [SameLetters, String.toList_ofList]
          exact hcut.2
        · apply String.toList_inj.1
          simp [hname]
      · rfl
    · rfl

/-- The names in the local domain are the ones that `stripDomain` shortens. -/
lemma exists_qualifies_iff :
    (∃ hostname, c.Qualifies hostname name) ↔ stripDomain c.localDomain name ≠ name := by
  constructor
  · rintro ⟨hostname, hqualifies⟩ hsame
    rw [stripDomain_of_qualifies hqualifies] at hsame
    obtain ⟨suffix, -, hname⟩ := hqualifies.name_eq
    have hlength := congrArg (·.toList.length) (hsame.trans hname)
    simp at hlength
  · intro hne
    by_contra hnot
    exact hne (stripDomain_of_not hnot)

end Service

end DhcpLeasing
