import DhcpLeasing.Proofs.Json.Tokens

/-!
# JSON text with blanks between its tokens

A value is read from the tokens that it is written with, whatever blanks there are between them.
What is read of a part ends where the part does, whatever follows, and the text gives fuel for every
step.

* `LaidOut` says what the texts for a value are, however many blanks are in them;
* `ofText?_laidOut`: the value is read from each of them.
-/

namespace DhcpLeasing.Json

variable {c : Char} {cs rest : List Char} {depth fuel : ℕ}

/-! ## Values that can be written -/

mutual

/-- What it means that all numbers in a value are spelled as the grammar wants it. -/
def Spelled : Json → Prop
  | null => True
  | bool _ => True
  | number spelling => WellSpelled spelling
  | string _ => True
  | array items => SpelledItems items
  | object members => SpelledMembers members

/-- What it means that all numbers in items are spelled as the grammar wants it. -/
def SpelledItems : List Json → Prop
  | [] => True
  | item :: rest => Spelled item ∧ SpelledItems rest

/-- What it means that all numbers in members are spelled as the grammar wants it. -/
def SpelledMembers : List (Option String × Json) → Prop
  | [] => True
  | (_, value) :: rest => Spelled value ∧ SpelledMembers rest

end

lemma spelledItems_iff {items : List Json} :
    SpelledItems items ↔ ∀ item ∈ items, Spelled item := by
  induction items with
  | nil => simp [SpelledItems]
  | cons item items ih => rw [SpelledItems, List.forall_mem_cons, ih]

lemma spelledMembers_iff {members : List (Option String × Json)} :
    SpelledMembers members ↔ ∀ member ∈ members, Spelled member.2 := by
  induction members with
  | nil => simp [SpelledMembers]
  | cons member members ih => rw [SpelledMembers, List.forall_mem_cons, ih]

lemma spelled_record_iff {members : List (String × Json)} :
    Spelled (record members) ↔ ∀ member ∈ members, Spelled member.2 := by
  rw [record, Spelled, spelledMembers_iff, List.forall_mem_map]

/-! ## Blanks -/

/-- What may stand between two tokens. -/
def IsGap (cs : List Char) : Prop :=
  ∀ c ∈ cs, isSpace c = true

/-- What it means that a text has blanks around a part of which `p` holds. -/
def Padded (p : List Char → Prop) (cs : List Char) : Prop :=
  ∃ front part back, cs = front ++ (part ++ back) ∧ IsGap front ∧ p part ∧ IsGap back

/-- What it means that a text is a name and a part of which `p` holds, with a colon between them. -/
def Named (name : Option String) (p : List Char → Prop) (cs : List Char) : Prop :=
  ∃ front back, cs = front ++ ':' :: back ∧ Padded (· = renderContent name) front ∧ Padded p back

lemma isGap_nil : IsGap [] := by
  simp [IsGap]

lemma isGap_space : IsGap [' '] := by
  simp [IsGap, isSpace]

lemma isGap_newLine (depth : ℕ) : IsGap (newLine depth) := by
  intro c hc
  rcases List.mem_cons.1 hc with rfl | hc
  · decide
  · rw [List.eq_of_mem_replicate hc]
    decide

lemma Padded.of_part {p : List Char → Prop} (h : p cs) : Padded p cs :=
  ⟨[], cs, [], by simp, isGap_nil, h, isGap_nil⟩

lemma skip_of_not_isSpace (h : isSpace c = false) : skip (c :: rest) = c :: rest := by
  rw [skip, List.dropWhile_cons_of_neg (by simp [h])]

lemma skip_append (hgap : IsGap cs) : skip (cs ++ rest) = skip rest :=
  List.dropWhile_append_of_pos hgap

lemma skip_gap (hgap : IsGap cs) (h : isSpace c = false) : skip (cs ++ c :: rest) = c :: rest := by
  rw [skip_append hgap, skip_of_not_isSpace h]

/-! ## Values in text -/

mutual

/-- What it means that a text is a value, with any blanks between its tokens. -/
def LaidOut : Json → List Char → Prop
  | array items, cs => ∃ body, cs = '[' :: (body ++ [']']) ∧ ItemsLaidOut items body
  | object members, cs => ∃ body, cs = '\x7b' :: (body ++ ['\x7d']) ∧ MembersLaidOut members body
  | scalar, cs => cs = renderCompact scalar

/-- What it means that a text is what stands between brackets for items. -/
def ItemsLaidOut : List Json → List Char → Prop
  | [], cs => IsGap cs
  | [item], cs => Padded (LaidOut item) cs
  | item :: items, cs =>
    ∃ front back, cs = front ++ ',' :: back ∧ Padded (LaidOut item) front ∧ ItemsLaidOut items back

/-- What it means that a text is what stands between braces for members. -/
def MembersLaidOut : List (Option String × Json) → List Char → Prop
  | [], cs => IsGap cs
  | [(name, value)], cs => Named name (LaidOut value) cs
  | (name, value) :: members, cs =>
    ∃ front back, cs = front ++ ',' :: back ∧ Named name (LaidOut value) front ∧
      MembersLaidOut members back

end

/-! ## The head of a value -/

lemma exists_cons_renderNumber {n : JsonNumber} (h : WellSpelled n) :
    ∃ c tail, renderNumber n = c :: tail ∧ (c = '-' ∨ c.isDigit) := by
  rw [renderNumber_eq]
  cases n.negative with
  | true => exact ⟨'-', _, rfl, .inl rfl⟩
  | false =>
    obtain ⟨d, ds, hds⟩ := List.exists_cons_of_ne_nil h.whole.1
    rw [hds]
    exact ⟨d, _, rfl, .inr (h.whole.2 d (by simp [hds]))⟩

lemma not_isDigit_of_isSpace (h : isSpace c = true) :
    c.isDigit = false ∧ c ≠ '-' ∧ c ≠ '.' ∧ c ≠ 'e' ∧ c ≠ 'E' := by
  simp only [isSpace, Bool.or_eq_true, beq_iff_eq] at h
  rcases h with ((rfl | rfl) | rfl) | rfl <;> decide

/-- A value begins with a character that is neither blank nor closes an array. -/
lemma exists_cons_laidOut {v : Json} (hspelled : Spelled v) (h : LaidOut v cs) :
    ∃ c tail, cs = c :: tail ∧ isSpace c = false ∧ c ≠ ']' := by
  cases v with
  | null => exact ⟨_, _, h, by decide⟩
  | bool value => cases value <;> exact ⟨_, _, h, by decide⟩
  | number n =>
    obtain ⟨c, tail, htext, hc⟩ := exists_cons_renderNumber hspelled
    refine ⟨c, tail, h.trans htext, ?_, by rintro rfl; exact absurd hc (by decide)⟩
    by_contra hspace
    rw [Bool.not_eq_false] at hspace
    obtain ⟨hdigit, hminus, -⟩ := not_isDigit_of_isSpace hspace
    simp [hdigit, hminus] at hc
  | string content =>
    obtain ⟨text, htext, -⟩ := readString_renderContent content []
    exact ⟨_, _, h.trans htext, by decide⟩
  | array items =>
    obtain ⟨body, rfl, -⟩ := h
    exact ⟨_, _, rfl, by decide⟩
  | object members =>
    obtain ⟨body, rfl, -⟩ := h
    exact ⟨_, _, rfl, by decide⟩

/-- Blanks are passed over up to a value. -/
lemma skip_laidOut {v : Json} {front : List Char} (hspelled : Spelled v) (h : LaidOut v cs)
    (hgap : IsGap front) (rest : List Char) : skip (front ++ (cs ++ rest)) = cs ++ rest := by
  obtain ⟨c, tail, rfl, hspace, -⟩ := exists_cons_laidOut hspelled h
  exact skip_gap hgap hspace

/-- Neither a blank nor one of these characters goes on with a value. -/
lemma endsValue_gap (hgap : IsGap cs) (hc : c = ',' ∨ c = ']' ∨ c = '\x7d') :
    EndsValue (cs ++ c :: rest) := by
  intro d hd
  cases cs with
  | nil =>
    obtain rfl : c = d := by simpa using hd
    rcases hc with rfl | rfl | rfl <;> decide
  | cons b cs =>
    obtain rfl : b = d := by simpa using hd
    obtain ⟨hdigit, -, hpoint⟩ := not_isDigit_of_isSpace (hgap b List.mem_cons_self)
    exact ⟨by simp [hdigit], hpoint⟩

lemma readValue_number (h : c = '-' ∨ c.isDigit) :
    readValue (fuel + 1) (c :: cs) =
      (readNumber (c :: cs)).map fun r => (number r.1, r.2) := by
  have hne : ∀ d, d ≠ '-' → d.isDigit = false → ∀ ds, c :: cs ≠ d :: ds := by
    intro d hminus hdigit ds heq
    obtain rfl : c = d := (List.cons.inj heq).1
    simp [hminus, hdigit] at h
  rw [readValue]
  · exact fun _ => hne 'n' (by decide) (by decide) _
  · exact fun _ => hne 't' (by decide) (by decide) _
  · exact fun _ => hne 'f' (by decide) (by decide) _
  · exact fun _ => hne '"' (by decide) (by decide) _
  · exact fun _ => hne '[' (by decide) (by decide) _
  · exact fun _ => hne '\x7b' (by decide) (by decide) _

/-! ## Reading what is laid out -/

/-- What it means that a value is read from every text for it, up to its end. -/
def IsRead (v : Json) : Prop :=
  ∀ cs fuel rest, LaidOut v cs → 2 * cs.length ≤ fuel → EndsValue rest →
    readValue fuel (cs ++ rest) = some (v, rest)

/-- What it means that items are read from every text for them, up to the closing bracket. -/
def AreReadItems : List Json → Prop
  | [] => True
  | item :: items => ∀ cs fuel rest, ItemsLaidOut (item :: items) cs → 2 * cs.length < fuel →
      readItems fuel (skip (cs ++ ']' :: rest)) = some (item :: items, rest)

/-- What it means that members are read from every text for them, up to the closing brace. -/
def AreReadMembers : List (Option String × Json) → Prop
  | [] => True
  | member :: members => ∀ cs fuel rest, MembersLaidOut (member :: members) cs →
      2 * cs.length < fuel →
        readMembers fuel (skip (cs ++ '\x7d' :: rest)) = some (member :: members, rest)

variable {item value : Json} {items : List Json} {name : Option String}
  {members : List (Option String × Json)}

/-- A value has a character, and so there is fuel to read it. -/
lemma isRead_of_succ {v : Json} (hspelled : Spelled v)
    (hread : ∀ cs fuel rest, LaidOut v cs → 2 * cs.length ≤ fuel + 1 → EndsValue rest →
      readValue (fuel + 1) (cs ++ rest) = some (v, rest)) : IsRead v := by
  intro cs fuel rest h hfuel hrest
  obtain ⟨c, tail, rfl, -⟩ := exists_cons_laidOut hspelled h
  obtain ⟨fuel, rfl⟩ : ∃ n, fuel = n + 1 :=
    Nat.exists_eq_add_one_of_ne_zero (by rw [List.length_cons] at hfuel; omega)
  exact hread _ fuel rest h hfuel hrest

lemma isRead_number {n : JsonNumber} (h : WellSpelled n) : IsRead (number n) := by
  refine isRead_of_succ h ?_
  rintro cs fuel rest rfl - hrest
  obtain ⟨c, tail, htext, hc⟩ := exists_cons_renderNumber h
  have hread := readNumber_renderNumber h hrest
  rw [htext] at hread
  rw [renderCompact, htext, List.cons_append, readValue_number hc, ← List.cons_append, hread]
  rfl

lemma isRead_string (content : Option String) : IsRead (string content) := by
  refine isRead_of_succ trivial ?_
  rintro cs fuel rest rfl - -
  obtain ⟨text, htext, hread⟩ := readString_renderContent content rest
  rw [renderCompact, htext, List.cons_append, readValue, hread]
  rfl

/-- An item is read up to what stands behind it, a comma or the closing bracket. -/
lemma readItems_item (hspelled : Spelled item) (hitem : IsRead item)
    (h : Padded (LaidOut item) cs) (hfuel : 2 * cs.length ≤ fuel) (hc : c = ',' ∨ c = ']')
    (rest : List Char) :
    readItems (fuel + 1) (skip (cs ++ c :: rest)) =
      if c = ']' then some ([item], rest)
      else (readItems fuel (skip rest)).map fun r => (item :: r.1, r.2) := by
  obtain ⟨front, text, back, rfl, hfront, htext, hback⟩ := h
  simp only [List.length_append] at hfuel
  have hends : EndsValue (back ++ c :: rest) := endsValue_gap hback (by tauto)
  have hread := hitem text fuel (back ++ c :: rest) htext (by omega) hends
  rw [List.append_assoc, List.append_assoc, skip_laidOut hspelled htext hfront, readItems, hread]
  dsimp only [Option.bind_eq_bind, Option.bind_some]
  rcases hc with rfl | rfl
  · rw [skip_gap hback (by decide), if_neg (by decide)]
    show (readItems fuel (skip rest)).bind _ = _
    cases readItems fuel (skip rest) <;> rfl
  · rw [skip_gap hback (by decide), if_pos rfl]
    rfl

lemma areReadItems_cons (hspelled : Spelled item) (hitem : IsRead item)
    (hitems : AreReadItems items) : AreReadItems (item :: items) := by
  intro cs fuel rest h hfuel
  obtain ⟨fuel, rfl⟩ : ∃ n, fuel = n + 1 := Nat.exists_eq_add_one_of_ne_zero (by omega)
  cases items with
  | nil => rw [readItems_item hspelled hitem h (by omega) (.inr rfl), if_pos rfl]
  | cons next items =>
    obtain ⟨front, back, rfl, hfront, hback⟩ := h
    simp only [List.length_append, List.length_cons] at hfuel
    rw [List.append_assoc, List.cons_append,
      readItems_item hspelled hitem hfront (by omega) (.inl rfl), if_neg (by decide),
      hitems back fuel rest hback (by omega)]
    rfl

/-- Items begin with the first of them. -/
lemma exists_skip_items (hspelled : Spelled item) (h : ItemsLaidOut (item :: items) cs)
    (rest : List Char) : ∃ c tail, skip (cs ++ rest) = c :: tail ∧ c ≠ ']' := by
  have hpadded : ∀ {part}, Padded (LaidOut item) part → ∀ rest,
      ∃ c tail, skip (part ++ rest) = c :: tail ∧ c ≠ ']' := by
    rintro _ ⟨front, text, back, rfl, hfront, htext, -⟩ rest
    obtain ⟨c, tail, hhead, -, hc⟩ := exists_cons_laidOut hspelled htext
    refine ⟨c, tail ++ (back ++ rest), ?_, hc⟩
    rw [List.append_assoc, List.append_assoc, skip_laidOut hspelled htext hfront, hhead,
      List.cons_append]
  cases items with
  | nil => exact hpadded h rest
  | cons next items =>
    obtain ⟨front, back, rfl, hfront, -⟩ := h
    rw [List.append_assoc]
    exact hpadded hfront _

lemma isRead_array (hspelled : SpelledItems items) (h : AreReadItems items) :
    IsRead (array items) := by
  refine isRead_of_succ hspelled ?_
  rintro _ fuel rest ⟨body, rfl, hbody⟩ hfuel -
  simp only [List.length_append, List.length_cons] at hfuel
  rw [List.cons_append, List.append_assoc, List.singleton_append, readValue]
  cases items with
  | nil =>
    rw [skip_gap hbody (by decide)]
    rfl
  | cons item items =>
    obtain ⟨c, tail, hskip, hc⟩ := exists_skip_items hspelled.1 hbody (']' :: rest)
    have hread := h body fuel rest hbody (by omega)
    rw [hskip] at hread ⊢
    split
    · next heq => exact absurd (List.cons.inj heq).1 hc
    · rw [hread]
      rfl

/-- A member is read up to what stands behind it, a comma or the closing brace. -/
lemma readMembers_member (hspelled : Spelled value) (hvalue : IsRead value)
    (h : Named name (LaidOut value) cs) (hfuel : 2 * cs.length ≤ fuel) (hc : c = ',' ∨ c = '\x7d')
    (rest : List Char) :
    readMembers (fuel + 1) (skip (cs ++ c :: rest)) =
      if c = '\x7d' then some ([(name, value)], rest)
      else (readMembers fuel (skip rest)).map fun r => ((name, value) :: r.1, r.2) := by
  obtain ⟨_, _, rfl, ⟨gap₁, _, gap₂, rfl, hgap₁, rfl, hgap₂⟩,
    ⟨gap₃, text, gap₄, rfl, hgap₃, htext, hgap₄⟩⟩ := h
  simp only [List.length_append, List.length_cons] at hfuel
  obtain ⟨tail, hname, hcontent⟩ := readString_renderContent name
    (gap₂ ++ ':' :: (gap₃ ++ (text ++ (gap₄ ++ c :: rest))))
  have hends : EndsValue (gap₄ ++ c :: rest) := endsValue_gap hgap₄ (by tauto)
  have hread := hvalue text fuel (gap₄ ++ c :: rest) htext (by omega) hends
  have hshape :
      gap₁ ++ (renderContent name ++ gap₂) ++ ':' :: (gap₃ ++ (text ++ gap₄)) ++ c :: rest =
        gap₁ ++ '"' :: (tail ++ (gap₂ ++ ':' :: (gap₃ ++ (text ++ (gap₄ ++ c :: rest))))) := by
    simp [hname]
  rw [hshape, skip_gap hgap₁ (by decide), readMembers, hcontent]
  dsimp only [Option.bind_eq_bind, Option.bind_some]
  rw [skip_gap hgap₂ (by decide)]
  show (readValue fuel (skip _)).bind _ = _
  rw [skip_laidOut hspelled htext hgap₃, hread]
  dsimp only [Option.bind_some]
  rcases hc with rfl | rfl
  · rw [skip_gap hgap₄ (by decide), if_neg (by decide)]
    show (readMembers fuel (skip rest)).bind _ = _
    cases readMembers fuel (skip rest) <;> rfl
  · rw [skip_gap hgap₄ (by decide), if_pos rfl]
    rfl

lemma areReadMembers_cons (name : Option String) (hspelled : Spelled value) (hvalue : IsRead value)
    (hmembers : AreReadMembers members) : AreReadMembers ((name, value) :: members) := by
  intro cs fuel rest h hfuel
  obtain ⟨fuel, rfl⟩ : ∃ n, fuel = n + 1 := Nat.exists_eq_add_one_of_ne_zero (by omega)
  cases members with
  | nil => rw [readMembers_member hspelled hvalue h (by omega) (.inr rfl), if_pos rfl]
  | cons member members =>
    obtain ⟨front, back, rfl, hfront, hback⟩ := h
    simp only [List.length_append, List.length_cons] at hfuel
    rw [List.append_assoc, List.cons_append,
      readMembers_member hspelled hvalue hfront (by omega) (.inl rfl), if_neg (by decide),
      hmembers back fuel rest hback (by omega)]
    rfl

/-- Members begin with the name of the first of them. -/
lemma exists_skip_members {member : Option String × Json}
    (h : MembersLaidOut (member :: members) cs) (rest : List Char) :
    ∃ tail, skip (cs ++ rest) = '"' :: tail := by
  have hnamed : ∀ {part}, Named member.1 (LaidOut member.2) part → ∀ rest,
      ∃ tail, skip (part ++ rest) = '"' :: tail := by
    rintro _ ⟨_, back, rfl, ⟨gap, _, gap', rfl, hgap, rfl, -⟩, -⟩ rest
    obtain ⟨tail, hname, -⟩ := readString_renderContent member.1 []
    refine ⟨tail ++ (gap' ++ ':' :: (back ++ rest)), ?_⟩
    rw [List.append_assoc, List.append_assoc, List.append_assoc, hname, List.cons_append,
      skip_gap hgap (by decide), List.cons_append]
  obtain ⟨name, value⟩ := member
  cases members with
  | nil => exact hnamed h rest
  | cons next members =>
    obtain ⟨front, back, rfl, hfront, -⟩ := h
    rw [List.append_assoc]
    exact hnamed hfront _

lemma isRead_object (hspelled : SpelledMembers members) (h : AreReadMembers members) :
    IsRead (object members) := by
  refine isRead_of_succ hspelled ?_
  rintro _ fuel rest ⟨body, rfl, hbody⟩ hfuel -
  simp only [List.length_append, List.length_cons] at hfuel
  rw [List.cons_append, List.append_assoc, List.singleton_append, readValue]
  cases members with
  | nil =>
    rw [skip_gap hbody (by decide)]
    rfl
  | cons member members =>
    obtain ⟨tail, hskip⟩ := exists_skip_members hbody ('\x7d' :: rest)
    have hread := h body fuel rest hbody (by omega)
    rw [hskip] at hread ⊢
    split
    · next heq => exact absurd (List.cons.inj heq).1 (by decide)
    · rw [hread]
      rfl

mutual

/-- Every value is read from the texts for it. -/
theorem isRead : ∀ v : Json, Spelled v → IsRead v
  | null, h => isRead_of_succ h fun _ _ _ hcs _ _ => hcs ▸ rfl
  | bool true, h => isRead_of_succ h fun _ _ _ hcs _ _ => hcs ▸ rfl
  | bool false, h => isRead_of_succ h fun _ _ _ hcs _ _ => hcs ▸ rfl
  | number _, h => isRead_number h
  | string content, _ => isRead_string content
  | array items, h => isRead_array h (areReadItems items h)
  | object members, h => isRead_object h (areReadMembers members h)

/-- All items are read from the texts for them. -/
theorem areReadItems : ∀ items : List Json, SpelledItems items → AreReadItems items
  | [], _ => trivial
  | item :: items, h => areReadItems_cons h.1 (isRead item h.1) (areReadItems items h.2)

/-- All members are read from the texts for them. -/
theorem areReadMembers : ∀ members : List (Option String × Json),
    SpelledMembers members → AreReadMembers members
  | [], _ => trivial
  | (name, value) :: members, h =>
    areReadMembers_cons name h.1 (isRead value h.1) (areReadMembers members h.2)

end

/-- **A value is read from every text for it**, whatever blanks there are between the tokens and
around the whole. -/
theorem ofText?_laidOut {v : Json} {s : String} (hspelled : Spelled v)
    (h : Padded (LaidOut v) s.toList) : ofText? s = some v := by
  obtain ⟨front, text, back, heq, hfront, htext, hback⟩ := h
  have hends : EndsValue back := by
    intro c hc
    obtain ⟨hdigit, -, hpoint⟩ := not_isDigit_of_isSpace (hback c (List.mem_of_mem_head? hc))
    exact ⟨by simp [hdigit], hpoint⟩
  have hread := isRead v hspelled text (2 * s.toList.length + 2) back htext
    (by rw [heq]; simp only [List.length_append]; omega) hends
  have hskip : skip back = [] := by
    have hnil : skip (back ++ []) = [] := skip_append hback
    rwa [List.append_nil] at hnil
  rw [ofText?, read]
  rw [heq] at hread ⊢
  rw [skip_laidOut hspelled htext hfront, hread]
  simp [hskip, guard]

end DhcpLeasing.Json
