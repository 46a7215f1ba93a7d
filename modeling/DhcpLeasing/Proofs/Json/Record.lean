import DhcpLeasing.Json.Record
import DhcpLeasing.Proofs.Text.Digits
import DhcpLeasing.SortedMap

/-!
# Records, written and read

The fields of a record whose members have different names are found by their names:
`recordFields?_record`. A field that is left out is as if it had its default.
-/

namespace DhcpLeasing.Json

open SortedMap

variable {α : Type} {name : String} {names : List String} {members : List (String × Json)}

/-! ## Values -/

lemma text?_text (s : String) : (text s).text? = some s := rfl

lemma nullable?_text (read : Json → Option α) (s : String) :
    nullable? read (text s) = (read (text s)).map some := rfl

lemma nullable?_record (read : Json → Option α) (members : List (String × Json)) :
    nullable? read (record members) = (read (record members)).map some := rfl

/-- What may be absent is read as it was, if what is there is. -/
lemma nullable?_getD {read : Json → Option α} {write : α → Json}
    {x? : Option α} (h : ∀ x, x? = some x → nullable? read (write x) = some (some x)) :
    nullable? read ((x?.map write).getD null) = some x? := by
  cases x? with
  | none => rfl
  | some x => exact h x rfl

lemma natBelow?_ofNat {bound n : ℕ} (h : n < bound) : natBelow? bound (ofNat n) = some n := by
  have hread : (JsonNumber.ofNat n).nat? = some n :=
    congrArg some (Text.ofDecimal_decimal n)
  rw [ofNat, natBelow?, hread, Option.filter_some, if_pos (by simpa using h)]

/-! ## Fields -/

/-- Of members with different names one at most has a given name. -/
lemma valuesOf_record (h : (members.map (·.1)).Nodup) (name : String) :
    valuesOf name (members.map fun member => (some member.1, member.2)) =
      (members.lookup name).toList := by
  induction members with
  | nil => rfl
  | cons member rest ih =>
    obtain ⟨first, value⟩ := member
    obtain ⟨hfirst, hrest⟩ := List.nodup_cons.1 h
    rw [lookup_cons_eq_ite]
    split
    · next heq =>
      subst heq
      have hnone : rest.lookup name = none := by
        rw [List.lookup_eq_none_iff]
        intro member hmem
        rw [bne_iff_ne]
        rintro rfl
        exact hfirst (List.mem_map.2 ⟨member, hmem, rfl⟩)
      have hothers := ih hrest
      rw [hnone] at hothers
      simp only [valuesOf, List.map_cons, List.filter_cons, decide_true, if_true,
        Option.toList_some, List.cons.injEq, true_and]
      exact hothers
    · next hne =>
      rw [← ih hrest]
      simp [valuesOf, Ne.symm hne]

/-- **The fields of a record are its members**, looked up by their names. -/
theorem recordFields?_record (h : (members.map (·.1)).Nodup) (names : List String) :
    (record members).recordFields? names = some (names.map fun name => members.lookup name) := by
  show objectFields? names (object (members.map fun member => (some member.1, member.2))) = _
  have hnames : (members.map fun member => (some member.1, member.2)).all (·.1.isSome) := by
    simp
  have honce : names.all fun name => (members.lookup name).toList.length ≤ 1 := by
    rw [List.all_eq_true]
    intro name _
    cases members.lookup name <;> rfl
  have hhead : ∀ field : Option Json, field.toList.head? = field := by
    intro field
    cases field <;> rfl
  simp only [objectFields?, valuesOf_record h, hnames, honce, hhead, Bool.and_self, if_true]

/-- A record has all fields that it was written with. -/
lemma recordFields?_own (h : (members.map (·.1)).Nodup) :
    (record members).recordFields? (members.map (·.1)) =
      some (members.map fun member => some member.2) := by
  rw [recordFields?_record h, List.map_map]
  refine congrArg some (List.map_congr_left fun member hmem => ?_)
  show members.lookup member.1 = some member.2
  induction members with
  | nil => cases hmem
  | cons first rest ih =>
    obtain ⟨hfirst, hrest⟩ := List.nodup_cons.1 h
    obtain ⟨name, value⟩ := first
    rw [lookup_cons_eq_ite]
    rcases List.mem_cons.1 hmem with rfl | hlater
    · rw [if_pos rfl]
    · have hne : member.1 ≠ name := by
        rintro rfl
        exact hfirst (List.mem_map.2 ⟨member, hlater, rfl⟩)
      rw [if_neg hne, ih hrest hlater]

/-- Fields that are left out are not found, and the others are found as before. -/
lemma lookup_filter (p : String → Bool) (members : List (String × Json)) (name : String) :
    (members.filter fun member => p member.1).lookup name =
      if p name then members.lookup name else none := by
  induction members with
  | nil => simp
  | cons member rest ih =>
    obtain ⟨first, value⟩ := member
    rw [lookup_cons_eq_ite]
    by_cases heq : name = first
    · subst heq
      cases hp : p name with
      | true => simp [hp]
      | false => simpa [hp] using ih
    · cases hp : p first with
      | true => simp [hp, heq, ih, lookup_cons_eq_ite]
      | false => simp [hp, heq, ih]

/-- A field that is left out has its default. -/
lemma optional_ite {p : Prop} [Decidable p] {default x : α} {read : Json → Option α} {value : Json}
    (h : read value = some x) :
    optional default read (if p then none else some value) = some (if p then default else x) := by
  split
  · rfl
  · exact h

end DhcpLeasing.Json
