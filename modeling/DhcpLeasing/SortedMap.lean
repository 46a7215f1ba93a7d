/-!
# Finite maps in the order of their keys

A map is the list of its entries, in strictly ascending order of their keys. So two maps that hold
the same entries are equal, and a listing is sorted however the map was built.
-/

namespace DhcpLeasing

open Std

/-- A finite map: its entries in strictly ascending order of their keys. -/
structure SortedMap (κ ν : Type) [Ord κ] where
  toList : List (κ × ν)
  ascending : toList.Pairwise fun a b => compare a.1 b.1 = .lt

namespace SortedMap

variable {κ ν : Type} [Ord κ]

/-! ## Lists of entries -/

/-- The entries with `v` at `k`, in place of what was there. -/
def insertEntry (k : κ) (v : ν) : List (κ × ν) → List (κ × ν)
  | [] => [(k, v)]
  | (k', v') :: rest =>
    match compare k k' with
    | .lt => (k, v) :: (k', v') :: rest
    | .eq => (k, v) :: rest
    | .gt => (k', v') :: insertEntry k v rest

theorem mem_insertEntry {k : κ} {v : ν} {e : κ × ν} {l : List (κ × ν)}
    (h : e ∈ insertEntry k v l) : e = (k, v) ∨ e ∈ l := by
  induction l with
  | nil => simpa [insertEntry] using h
  | cons hd tl ih =>
    obtain ⟨k', v'⟩ := hd
    rw [insertEntry] at h
    split at h <;> grind

theorem insertEntry_ascending [TransOrd κ] [LawfulEqOrd κ] (k : κ) (v : ν) {l : List (κ × ν)}
    (h : l.Pairwise fun a b => compare a.1 b.1 = .lt) :
    (insertEntry k v l).Pairwise fun a b => compare a.1 b.1 = .lt := by
  induction l with
  | nil => simp [insertEntry]
  | cons hd tl ih =>
    obtain ⟨k', v'⟩ := hd
    obtain ⟨hhd, htl⟩ := List.pairwise_cons.1 h
    rw [insertEntry]
    split
    · next hlt =>
      refine List.pairwise_cons.2 ⟨fun e he => ?_, h⟩
      rcases List.mem_cons.1 he with rfl | he
      · exact hlt
      · exact TransCmp.lt_trans hlt (hhd e he)
    · next heq =>
      have : k = k' := LawfulEqCmp.eq_of_compare heq
      subst this
      exact List.pairwise_cons.2 ⟨hhd, htl⟩
    · next hgt =>
      refine List.pairwise_cons.2 ⟨fun e he => ?_, ih htl⟩
      rcases mem_insertEntry he with rfl | he
      · exact OrientedCmp.lt_of_gt hgt
      · exact hhd e he

variable [DecidableEq κ]

omit [Ord κ] in
theorem lookup_cons_eq_ite (k k' : κ) (v : ν) (l : List (κ × ν)) :
    ((k, v) :: l).lookup k' = if k' = k then some v else l.lookup k' := by
  by_cases h : k' = k
  · simp [h]
  · rw [List.lookup_cons, if_neg h]
    simp [beq_false_of_ne h]

theorem lookup_insertEntry [TransOrd κ] [LawfulEqOrd κ] (k k' : κ) (v : ν) (l : List (κ × ν)) :
    (insertEntry k v l).lookup k' = if k' = k then some v else l.lookup k' := by
  induction l with
  | nil => rw [insertEntry, lookup_cons_eq_ite]
  | cons hd tl ih =>
    obtain ⟨k₀, v₀⟩ := hd
    rw [insertEntry]
    split
    · by_cases h : k' = k <;> simp [lookup_cons_eq_ite, h]
    · next heq =>
      have : k = k₀ := LawfulEqCmp.eq_of_compare heq
      subst this
      by_cases h : k' = k <;> simp [lookup_cons_eq_ite, h]
    · next hgt =>
      have hne : k₀ ≠ k := by
        rintro rfl
        simp [ReflOrd.compare_self] at hgt
      by_cases h : k' = k
      · subst h
        simp [lookup_cons_eq_ite, ih, Ne.symm hne]
      · by_cases h₀ : k' = k₀
        · subst h₀; simp [h]
        · simp [lookup_cons_eq_ite, ih, h, h₀]

/-! ## Maps -/

/-- The map without entries. -/
def empty : SortedMap κ ν :=
  ⟨[], .nil⟩

/-- The value at `k`. -/
def get? (m : SortedMap κ ν) (k : κ) : Option ν :=
  m.toList.lookup k

/-- Whether `k` has a value. -/
def contains (m : SortedMap κ ν) (k : κ) : Bool :=
  (m.get? k).isSome

/-- The map with `v` at `k`, in place of what was there. -/
def insert [TransOrd κ] [LawfulEqOrd κ] (m : SortedMap κ ν) (k : κ) (v : ν) : SortedMap κ ν :=
  ⟨insertEntry k v m.toList, insertEntry_ascending k v m.ascending⟩

/-- The map with nothing at `k`. -/
def erase (m : SortedMap κ ν) (k : κ) : SortedMap κ ν :=
  ⟨m.toList.filter (·.1 ≠ k), m.ascending.filter _⟩

/-- The map of the entries of a list, of which the later ones win. -/
def ofList [TransOrd κ] [LawfulEqOrd κ] (entries : List (κ × ν)) : SortedMap κ ν :=
  entries.foldl (fun m e => m.insert e.1 e.2) empty

/-- The map with every value replaced by a function of it. -/
def mapValues {ν' : Type} (f : ν → ν') (m : SortedMap κ ν) : SortedMap κ ν' :=
  ⟨m.toList.map fun e => (e.1, f e.2), m.ascending.map _ fun _ _ h => h⟩

/-- The keys in ascending order. -/
def keys (m : SortedMap κ ν) : List κ :=
  m.toList.map (·.1)

/-- The values in ascending order of their keys. -/
def values (m : SortedMap κ ν) : List ν :=
  m.toList.map (·.2)

/-- The number of entries. -/
def size (m : SortedMap κ ν) : Nat :=
  m.toList.length

omit [DecidableEq κ] in
theorem toList_inj {m₁ m₂ : SortedMap κ ν} : m₁.toList = m₂.toList ↔ m₁ = m₂ := by
  cases m₁; cases m₂; simp

instance [DecidableEq ν] : DecidableEq (SortedMap κ ν) := fun _ _ =>
  decidable_of_iff _ toList_inj

@[simp] theorem get?_empty (k : κ) : (empty : SortedMap κ ν).get? k = none := rfl

@[simp] theorem get?_insert [TransOrd κ] [LawfulEqOrd κ] (m : SortedMap κ ν) (k k' : κ) (v : ν) :
    (m.insert k v).get? k' = if k' = k then some v else m.get? k' :=
  lookup_insertEntry k k' v m.toList

@[simp] theorem get?_erase (m : SortedMap κ ν) (k k' : κ) :
    (m.erase k).get? k' = if k' = k then none else m.get? k' := by
  obtain ⟨l, hl⟩ := m
  simp only [erase, get?]
  clear hl
  induction l with
  | nil => simp
  | cons hd tl ih =>
    obtain ⟨k₀, v₀⟩ := hd
    by_cases h₀ : k₀ = k
    · subst h₀
      rw [List.filter_cons_of_neg (by simp), ih]
      by_cases h : k' = k₀ <;> simp [lookup_cons_eq_ite, h]
    · rw [List.filter_cons_of_pos (by simpa using h₀), lookup_cons_eq_ite, lookup_cons_eq_ite, ih]
      by_cases h : k' = k <;> by_cases h' : k' = k₀ <;> simp_all

@[simp] theorem get?_mapValues {ν' : Type} (f : ν → ν') (m : SortedMap κ ν) (k : κ) :
    (m.mapValues f).get? k = (m.get? k).map f := by
  obtain ⟨l, hl⟩ := m
  simp only [mapValues, get?]
  clear hl
  induction l with
  | nil => rfl
  | cons hd tl ih =>
    rw [List.map_cons, lookup_cons_eq_ite, lookup_cons_eq_ite, ih]
    split <;> rfl

omit [DecidableEq κ] in
theorem values_mapValues {ν' : Type} (f : ν → ν') (m : SortedMap κ ν) :
    (m.mapValues f).values = m.values.map f := by
  simp [mapValues, values]

theorem mem_toList_iff [TransOrd κ] [LawfulEqOrd κ] {m : SortedMap κ ν} {k : κ} {v : ν} :
    (k, v) ∈ m.toList ↔ m.get? k = some v := by
  obtain ⟨l, hl⟩ := m
  simp only [get?]
  induction l with
  | nil => simp
  | cons hd tl ih =>
    obtain ⟨k₀, v₀⟩ := hd
    obtain ⟨hhd, htl⟩ := List.pairwise_cons.1 hl
    rw [List.mem_cons, lookup_cons_eq_ite]
    by_cases h : k = k₀
    · subst h
      have : (k, v) ∉ tl := fun hmem => by
        simpa [ReflOrd.compare_self] using hhd _ hmem
      simp [this, eq_comm]
    · simp [h, ih htl]

theorem mem_values_iff [TransOrd κ] [LawfulEqOrd κ] {m : SortedMap κ ν} {v : ν} :
    v ∈ m.values ↔ ∃ k, m.get? k = some v := by
  rw [values, List.mem_map]
  constructor
  · rintro ⟨⟨k, _⟩, he, rfl⟩
    exact ⟨k, mem_toList_iff.1 he⟩
  · rintro ⟨k, hk⟩
    exact ⟨(k, v), mem_toList_iff.2 hk, rfl⟩

theorem mem_of_get?_foldl_insert [TransOrd κ] [LawfulEqOrd κ] {entries : List (κ × ν)}
    {m : SortedMap κ ν} {k : κ} {v : ν}
    (h : (entries.foldl (fun m e => m.insert e.1 e.2) m).get? k = some v) :
    m.get? k = some v ∨ (k, v) ∈ entries := by
  induction entries generalizing m with
  | nil => exact .inl h
  | cons e rest ih =>
    rcases ih h with h | h
    · rw [get?_insert] at h
      split at h
      · next heq =>
        obtain rfl := Option.some.inj h
        exact .inr (heq ▸ List.mem_cons_self ..)
      · exact .inl h
    · exact .inr (List.mem_cons_of_mem _ h)

/-- The map of the entries of a list holds no others. -/
theorem mem_of_get?_ofList [TransOrd κ] [LawfulEqOrd κ] {entries : List (κ × ν)} {k : κ} {v : ν}
    (h : (ofList entries).get? k = some v) : (k, v) ∈ entries :=
  (mem_of_get?_foldl_insert h).resolve_left (by simp)

theorem get?_foldl_insert_of_not_mem [TransOrd κ] [LawfulEqOrd κ] {entries : List (κ × ν)}
    {m : SortedMap κ ν} {k : κ} (h : ∀ e ∈ entries, e.1 ≠ k) :
    (entries.foldl (fun m e => m.insert e.1 e.2) m).get? k = m.get? k := by
  induction entries generalizing m with
  | nil => rfl
  | cons e rest ih =>
    have hne : k ≠ e.1 := Ne.symm (h e (List.mem_cons_self ..))
    have hrest : ∀ e' ∈ rest, e'.1 ≠ k := fun e' he' => h e' (List.mem_cons_of_mem _ he')
    rw [List.foldl_cons, ih hrest, get?_insert, if_neg hne]

theorem get?_foldl_insert_of_mem [TransOrd κ] [LawfulEqOrd κ] {entries : List (κ × ν)}
    {m : SortedMap κ ν} {k : κ} {v : ν}
    (hkeys : entries.Pairwise fun a b => compare a.1 b.1 = .lt) (h : (k, v) ∈ entries) :
    (entries.foldl (fun m e => m.insert e.1 e.2) m).get? k = some v := by
  induction entries generalizing m with
  | nil => cases h
  | cons e rest ih =>
    obtain ⟨hhd, htl⟩ := List.pairwise_cons.1 hkeys
    rcases List.mem_cons.1 h with rfl | h
    · have hne : ∀ e' ∈ rest, e'.1 ≠ k := by
        rintro e' he' rfl
        simpa [ReflOrd.compare_self] using hhd e' he'
      rw [List.foldl_cons, get?_foldl_insert_of_not_mem hne, get?_insert, if_pos rfl]
    · exact ih htl h

/-- Maps that agree at every key are equal. -/
theorem ext_get? [TransOrd κ] [LawfulEqOrd κ] {m₁ m₂ : SortedMap κ ν}
    (h : ∀ k, m₁.get? k = m₂.get? k) : m₁ = m₂ := by
  have hmem : ∀ e, e ∈ m₁.toList ↔ e ∈ m₂.toList := fun e => by
    rw [mem_toList_iff (k := e.1) (v := e.2), mem_toList_iff, h]
  refine toList_inj.1 ?_
  obtain ⟨l₁, hl₁⟩ := m₁
  obtain ⟨l₂, hl₂⟩ := m₂
  simp only at hmem ⊢
  clear h
  induction l₁ generalizing l₂ with
  | nil =>
    cases l₂ with
    | nil => rfl
    | cons e _ => exact absurd ((hmem e).2 (List.mem_cons_self ..)) (by simp)
  | cons a r₁ ih =>
    obtain ⟨ha, hr₁⟩ := List.pairwise_cons.1 hl₁
    cases l₂ with
    | nil => exact absurd ((hmem a).1 (List.mem_cons_self ..)) (by simp)
    | cons b r₂ =>
      obtain ⟨hb, hr₂⟩ := List.pairwise_cons.1 hl₂
      -- the heads are the least entries of the same set
      have hab : a = b := by
        rcases List.mem_cons.1 ((hmem a).1 (List.mem_cons_self ..)) with h | h
        · exact h
        · rcases List.mem_cons.1 ((hmem b).2 (List.mem_cons_self ..)) with h' | h'
          · exact h'.symm
          · exact absurd (ha b h') (by simp [OrientedCmp.not_lt_of_lt (hb a h)])
      subst hab
      refine congrArg (a :: ·) (ih hr₁ r₂ hr₂ fun e => ⟨fun he => ?_, fun he => ?_⟩)
      · rcases List.mem_cons.1 ((hmem e).1 (List.mem_cons_of_mem _ he)) with rfl | h
        · exact absurd (ha e he) (by simp [ReflOrd.compare_self])
        · exact h
      · rcases List.mem_cons.1 ((hmem e).2 (List.mem_cons_of_mem _ he)) with rfl | h
        · exact absurd (hb e he) (by simp [ReflOrd.compare_self])
        · exact h

/-- A map is the map of its own entries. -/
theorem ofList_toList [TransOrd κ] [LawfulEqOrd κ] (m : SortedMap κ ν) : ofList m.toList = m := by
  apply ext_get?
  intro k
  apply Option.ext
  intro v
  constructor
  · exact fun h => mem_toList_iff.1 (mem_of_get?_ofList h)
  · exact fun h => get?_foldl_insert_of_mem m.ascending (mem_toList_iff.2 h)

/-- The value inserted last counts. -/
theorem insert_insert [TransOrd κ] [LawfulEqOrd κ] (m : SortedMap κ ν) (k : κ) (v v' : ν) :
    (m.insert k v).insert k v' = m.insert k v' := by
  apply ext_get?
  intro k'
  simp only [get?_insert]
  split <;> rfl

/-- Inserting what is there already changes nothing. -/
theorem insert_of_get? [TransOrd κ] [LawfulEqOrd κ] {m : SortedMap κ ν} {k : κ} {v : ν}
    (h : m.get? k = some v) : m.insert k v = m := by
  apply ext_get?
  intro k'
  rw [get?_insert]
  split
  · next heq => rw [heq, h]
  · rfl

/-- The values of a map with some of the entries of another one. -/
theorem values_eq_filter [TransOrd κ] [LawfulEqOrd κ] {m m' : SortedMap κ ν} {p : ν → Bool}
    (h : ∀ k, m'.get? k = (m.get? k).filter p) : m'.values = m.values.filter p := by
  let kept : SortedMap κ ν := ⟨m.toList.filter fun e => p e.2, m.ascending.filter _⟩
  have hkept : m' = kept := by
    apply ext_get?
    intro k
    apply Option.ext
    intro v
    rw [h, ← mem_toList_iff, List.mem_filter, mem_toList_iff, Option.filter_eq_some_iff]
  rw [hkept, values, values, List.filter_map]
  rfl

end SortedMap

end DhcpLeasing
