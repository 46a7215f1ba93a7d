import Mathlib.Data.Option.Basic

/-!
# Texts in parts

What is written part by part, with a mark between them, is read part by part.
-/

namespace DhcpLeasing.Text

variable {α β : Type} {read : β → Option α} {c : Char}

/-- A list is left alone by what leaves its members alone. -/
lemma map_eq_self {f : α → α} {xs : List α} (h : ∀ x ∈ xs, f x = x) : xs.map f = xs := by
  rw [List.map_congr_left h, List.map_id']

lemma mem_intercalate {sep : Char} {parts : List (List Char)} (h : c ∈ [sep].intercalate parts) :
    c = sep ∨ ∃ part ∈ parts, c ∈ part := by
  induction parts with
  | nil => simp at h
  | cons part rest ih =>
    cases rest with
    | nil => exact .inr ⟨part, List.mem_cons_self, by simpa using h⟩
    | cons part' rest' =>
      rw [List.intercalate_cons_cons, List.append_assoc, List.mem_append, List.mem_append] at h
      rcases h with h | h | h
      · exact .inr ⟨part, List.mem_cons_self, h⟩
      · exact .inl (List.mem_singleton.1 h)
      · exact (ih h).imp_right fun ⟨other, hother, hc⟩ =>
          ⟨other, List.mem_cons_of_mem _ hother, hc⟩

lemma mem_intercalate_of_mem {sep : Char} {part : List Char} {parts : List (List Char)}
    (h : part ∈ parts) (hc : c ∈ part) : c ∈ [sep].intercalate parts := by
  induction parts with
  | nil => simp at h
  | cons first rest ih =>
    cases rest with
    | nil => simpa [List.mem_singleton.1 h] using hc
    | cons part' rest' =>
      rw [List.intercalate_cons_cons, List.append_assoc, List.mem_append, List.mem_append]
      rcases List.mem_cons.1 h with rfl | h
      · exact .inl hc
      · exact .inr (.inr (ih h))

lemma mapM_map_eq_some {write : α → β} {xs : List α} (h : ∀ x ∈ xs, read (write x) = some x) :
    (xs.map write).mapM read = some xs := by
  induction xs with
  | nil => rfl
  | cons x xs ih =>
    rw [List.map_cons, List.mapM_cons, h x (by simp), ih fun y hy => h y (by simp [hy])]
    rfl

lemma mapM_cons_eq_some_iff {first : β} {rest : List β} {xs : List α} :
    (first :: rest).mapM read = some xs ↔
      ∃ x ys, read first = some x ∧ rest.mapM read = some ys ∧ xs = x :: ys := by
  rw [List.mapM_cons, Option.bind_eq_bind, Option.bind_eq_some_iff]
  refine exists_congr fun x => ?_
  rw [Option.bind_eq_bind, Option.bind_eq_some_iff]
  simp [eq_comm]

/-- What is read of all parts is read of them one by one. -/
lemma map_of_mapM_eq_some {parts : List β} {xs : List α} (h : parts.mapM read = some xs) :
    parts.map read = xs.map some := by
  induction parts generalizing xs with
  | nil =>
    obtain rfl : [] = xs := Option.some.inj h
    rfl
  | cons first rest ih =>
    obtain ⟨x, ys, hx, hys, rfl⟩ := mapM_cons_eq_some_iff.1 h
    rw [List.map_cons, List.map_cons, hx, ih hys]

/-- Whoever reads all parts reads each. -/
lemma isSome_of_mapM_eq_some {parts : List β} {xs : List α} (h : parts.mapM read = some xs) :
    ∀ part ∈ parts, (read part).isSome := by
  intro part hpart
  have hmem : read part ∈ xs.map some := map_of_mapM_eq_some h ▸ List.mem_map_of_mem hpart
  obtain ⟨x, -, hx⟩ := List.mem_map.1 hmem
  rw [← hx]
  rfl

/-- What is read is read of some part. -/
lemma exists_of_mapM_eq_some {parts : List β} {xs : List α} {x : α} (h : parts.mapM read = some xs)
    (hx : x ∈ xs) : ∃ part, read part = some x := by
  have hmem : some x ∈ parts.map read := map_of_mapM_eq_some h ▸ List.mem_map_of_mem hx
  obtain ⟨part, -, hpart⟩ := List.mem_map.1 hmem
  exact ⟨part, hpart⟩

/-- Parts with marks between them are found again. -/
lemma mapM_splitOn_intercalate {mark : Char} {write : α → List Char} {read : List Char → Option α}
    {xs : List α} (hne : xs ≠ []) (hmark : ∀ x ∈ xs, mark ∉ write x)
    (hread : ∀ x ∈ xs, read (write x) = some x) :
    (([mark].intercalate (xs.map write)).splitOn mark).mapM read = some xs := by
  rw [List.splitOn_intercalate mark (by simpa using hmark) (by simpa using hne)]
  exact mapM_map_eq_some hread

end DhcpLeasing.Text
