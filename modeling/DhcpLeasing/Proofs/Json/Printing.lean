import DhcpLeasing.Proofs.Json.Layout

/-!
# JSON, written and read

Both layouts differ in the blanks between the tokens only, and so a value is read from the text it
is written as in either of them: `ofText?_compact` and `ofText?_indented`.
-/

namespace DhcpLeasing.Json

/-! ## The compact layout -/

mutual

lemma laidOut_compact : ∀ v : Json, LaidOut v (renderCompact v)
  | null => rfl
  | bool _ => rfl
  | number _ => rfl
  | string _ => rfl
  | array items => ⟨renderItems items, rfl, itemsLaidOut_compact items⟩
  | object members => ⟨renderMembers members, rfl, membersLaidOut_compact members⟩

lemma itemsLaidOut_compact : ∀ items : List Json, ItemsLaidOut items (renderItems items)
  | [] => isGap_nil
  | [item] => .of_part (laidOut_compact item)
  | item :: next :: items =>
    ⟨renderCompact item, renderItems (next :: items), rfl, .of_part (laidOut_compact item),
      itemsLaidOut_compact (next :: items)⟩

lemma membersLaidOut_compact : ∀ members : List (Option String × Json),
    MembersLaidOut members (renderMembers members)
  | [] => isGap_nil
  | [(name, value)] =>
    ⟨renderContent name, renderCompact value, rfl, .of_part rfl, .of_part (laidOut_compact value)⟩
  | (name, value) :: next :: members =>
    ⟨renderContent name ++ ':' :: renderCompact value, renderMembers (next :: members),
      by simp [renderMembers],
      ⟨renderContent name, renderCompact value, rfl, .of_part rfl,
        .of_part (laidOut_compact value)⟩,
      membersLaidOut_compact (next :: members)⟩

end

/-- **A value is read from its compact text.** -/
theorem ofText?_compact {v : Json} (h : Spelled v) : ofText? (compact v) = some v := by
  refine ofText?_laidOut h (.of_part ?_)
  rw [compact, String.toList_ofList]
  exact laidOut_compact v

/-! ## The indented layout -/

/-- What the indented layout has between brackets. -/
def itemBlock (depth outer : ℕ) : List Json → List Char
  | [] => []
  | item :: items =>
    newLine depth ++ (renderIndented depth item ++ (renderItemLines depth items ++ newLine outer))

/-- What the indented layout has between braces. -/
def memberBlock (depth outer : ℕ) : List (Option String × Json) → List Char
  | [] => []
  | (name, value) :: members =>
    newLine depth ++ (renderContent name ++ (':' :: ' ' ::
      (renderIndented depth value ++ (renderMemberLines depth members ++ newLine outer))))

lemma renderIndented_array (depth : ℕ) (items : List Json) :
    renderIndented depth (array items) = '[' :: (itemBlock (depth + 1) depth items ++ [']']) := by
  cases items <;> simp [renderIndented, itemBlock]

lemma renderIndented_object (depth : ℕ) (members : List (Option String × Json)) :
    renderIndented depth (object members) =
      '\x7b' :: (memberBlock (depth + 1) depth members ++ ['\x7d']) := by
  rcases members with _ | ⟨⟨name, value⟩, members⟩ <;> simp [renderIndented, memberBlock]

mutual

lemma laidOut_indented : ∀ (v : Json) (depth : ℕ), LaidOut v (renderIndented depth v)
  | null, _ => rfl
  | bool true, _ => rfl
  | bool false, _ => rfl
  | number _, _ => rfl
  | string _, _ => rfl
  | array items, depth =>
    ⟨_, renderIndented_array depth items, itemsLaidOut_indented items (depth + 1) depth⟩
  | object members, depth =>
    ⟨_, renderIndented_object depth members, membersLaidOut_indented members (depth + 1) depth⟩

lemma itemsLaidOut_indented : ∀ (items : List Json) (depth outer : ℕ),
    ItemsLaidOut items (itemBlock depth outer items)
  | [], _, _ => isGap_nil
  | [item], depth, outer =>
    ⟨newLine depth, renderIndented depth item, newLine outer, rfl, isGap_newLine depth,
      laidOut_indented item depth, isGap_newLine outer⟩
  | item :: next :: items, depth, outer =>
    ⟨newLine depth ++ (renderIndented depth item ++ []), itemBlock depth outer (next :: items),
      by simp [itemBlock, renderItemLines],
      ⟨newLine depth, renderIndented depth item, [], rfl, isGap_newLine depth,
        laidOut_indented item depth, isGap_nil⟩,
      itemsLaidOut_indented (next :: items) depth outer⟩

lemma membersLaidOut_indented : ∀ (members : List (Option String × Json)) (depth outer : ℕ),
    MembersLaidOut members (memberBlock depth outer members)
  | [], _, _ => isGap_nil
  | [(name, value)], depth, outer =>
    ⟨newLine depth ++ (renderContent name ++ []),
      [' '] ++ (renderIndented depth value ++ newLine outer),
      by simp [memberBlock, renderMemberLines],
      ⟨newLine depth, _, [], rfl, isGap_newLine depth, rfl, isGap_nil⟩,
      ⟨[' '], _, newLine outer, rfl, isGap_space, laidOut_indented value depth,
        isGap_newLine outer⟩⟩
  | (name, value) :: next :: members, depth, outer =>
    ⟨newLine depth ++ (renderContent name ++ []) ++
        ':' :: ([' '] ++ (renderIndented depth value ++ [])),
      memberBlock depth outer (next :: members), by simp [memberBlock, renderMemberLines],
      ⟨_, _, rfl, ⟨newLine depth, _, [], rfl, isGap_newLine depth, rfl, isGap_nil⟩,
        ⟨[' '], _, [], rfl, isGap_space, laidOut_indented value depth, isGap_nil⟩⟩,
      membersLaidOut_indented (next :: members) depth outer⟩

end

/-- **A value is read as it was written**, with one member or item on a line. -/
theorem ofText?_indented {v : Json} (h : Spelled v) : ofText? (indented v) = some v := by
  refine ofText?_laidOut h (.of_part ?_)
  rw [indented, String.toList_ofList]
  exact laidOut_indented v 0

end DhcpLeasing.Json
