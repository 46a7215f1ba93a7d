import DhcpLeasing.Error
import DhcpLeasing.Proofs.Checks
import DhcpLeasing.Proofs.HwAddr

/-!
# The texts that are hardware addresses

A text is read after it has been trimmed and lowercased. What it takes to be a hardware address is
a grammar here: groups with a colon or a dash between each two, and one byte for each group. Two
hexadecimal digits are a group, and so is a plus sign with one digit, since the reader of numbers
takes a sign.

* `HwAddr.Spells` is the grammar, for any notion of a group;
* `HwAddr.mapM_readByte_eq_some_iff` says that the bytes read are those spelled;
* `HwAddr.texts_read` says which texts are read as what, and how all others are refused.
-/

namespace DhcpLeasing

open Text

namespace HwAddr

/-! ## The grammar -/

/-- Two hexadecimal digits in lowercase, and the byte that they stand for. -/
inductive IsPair : List Char → UInt8 → Prop
  | digits {high low : ℕ} (hhigh : high < 16) (hlow : low < 16) :
      IsPair [Nat.digitChar high, Nat.digitChar low] (.ofNat (16 * high + low))

/-- What a byte is read from: two hexadecimal digits, or a plus sign and one digit. -/
inductive IsGroup : List Char → UInt8 → Prop
  | pair {group : List Char} {b : UInt8} (h : IsPair group b) : IsGroup group b
  | plus {digit : ℕ} (h : digit < 16) : IsGroup ['+', Nat.digitChar digit] (.ofNat digit)

/-- What stands between two groups. -/
def IsMark (c : Char) : Prop :=
  c = ':' ∨ c = '-'

instance (c : Char) : Decidable (IsMark c) :=
  inferInstanceAs (Decidable (_ ∨ _))

/-- What it means that a text spells bytes: it has a group for each of them, in order, with a single
mark between each two. -/
inductive Spells (isGroup : List Char → UInt8 → Prop) : List Char → List UInt8 → Prop
  | last {group : List Char} {b : UInt8} (h : isGroup group b) : Spells isGroup group [b]
  | more {group rest : List Char} {mark : Char} {b : UInt8} {bs : List UInt8} (h : isGroup group b)
      (hmark : IsMark mark) (hrest : Spells isGroup rest bs) :
      Spells isGroup (group ++ mark :: rest) (b :: bs)

variable {cs group rest : List Char} {bs : List UInt8} {b : UInt8} {c : Char} {d : ℕ} {s : String}

lemma Spells.mono {isGroup isGroup' : List Char → UInt8 → Prop} (hspells : Spells isGroup cs bs)
    (h : ∀ group b, (∀ c ∈ group, c ∈ cs) → isGroup group b → isGroup' group b) :
    Spells isGroup' cs bs := by
  induction hspells with
  | last hgroup => exact .last (h _ _ (fun _ hc => hc) hgroup)
  | more hgroup hmark _ ih =>
    refine .more (h _ _ (fun c hc => List.mem_append_left _ hc) hgroup) hmark (ih ?_)
    intro group b hgroup
    exact h group b fun c hc => List.mem_append_right _ (List.mem_cons_of_mem _ (hgroup c hc))

/-! ## Groups -/

lemma toNat_digitChar (hd : d < 16) :
    (Nat.digitChar d).toNat = if d < 10 then 48 + d else 87 + d := by
  have hall : ∀ d < 16, (Nat.digitChar d).toNat = if d < 10 then 48 + d else 87 + d := by decide
  exact hall d hd

/-- In lowercase the hexadecimal digits are those that numbers are written with. -/
lemma hexDigit?_eq_some_iff (hc : c.isUpper = false) :
    hexDigit? c = some d ↔ d < 16 ∧ c = Nat.digitChar d := by
  constructor
  · intro h
    have hlt : d < 16 ∧ c.toNat = if d < 10 then 48 + d else 87 + d := by
      rw [isUpper_eq_false_iff] at hc
      simp only [hexDigit?, Char.le_def, UInt32.le_iff_toNat_le, Char.toNat_val] at h
      simp only [Char.reduceToNat] at h
      split at h
      · next hrange =>
        have hd := Option.some.inj h
        rw [if_pos (by omega)]
        omega
      · split at h
        · next hrange =>
          have hd := Option.some.inj h
          rw [if_neg (by omega)]
          omega
        · split at h
          · -- these are the uppercase digits
            omega
          · cases h
    refine ⟨hlt.1, ?_⟩
    rw [← Char.toNat_inj, toNat_digitChar hlt.1, hlt.2]
  · rintro ⟨hd, rfl⟩
    exact hexDigit?_digitChar hd

lemma readByte_pair (first second : Char) : readByte [first, second] =
    (hexDigit? second).bind fun low =>
      if first = '+' then some (.ofNat low)
      else (hexDigit? first).map fun high => .ofNat (16 * high + low) := by
  rw [readByte]
  cases hexDigit? second with
  | none => rfl
  | some low =>
    by_cases hplus : first = '+'
    · simp [hplus]
    · cases hhigh : hexDigit? first <;> simp [hplus]

/-- A byte is read from a group and from nothing else. -/
lemma readByte_eq_some_iff (hcs : ∀ c ∈ cs, c.isUpper = false) :
    readByte cs = some b ↔ IsGroup cs b := by
  constructor
  · intro h
    obtain ⟨first, second, rfl⟩ : ∃ first second, cs = [first, second] := by
      unfold readByte at h
      split at h
      · exact ⟨_, _, rfl⟩
      · cases h
    rw [readByte_pair] at h
    obtain ⟨low, hsecond, hread⟩ := Option.bind_eq_some_iff.1 h
    obtain ⟨hlow, rfl⟩ := (hexDigit?_eq_some_iff (hcs second (by simp))).1 hsecond
    split at hread
    · next hplus =>
      subst hplus
      rw [← Option.some.inj hread]
      exact .plus hlow
    · obtain ⟨high, hfirst, rfl⟩ := Option.map_eq_some_iff.1 hread
      obtain ⟨hhigh, rfl⟩ := (hexDigit?_eq_some_iff (hcs first (by simp))).1 hfirst
      exact .pair (.digits hhigh hlow)
  · intro h
    cases h with
    | pair h =>
      obtain ⟨hhigh, hlow⟩ := h
      have hplus : ∀ d < 16, Nat.digitChar d ≠ '+' := by decide
      rw [readByte_pair, hexDigit?_digitChar hlow, Option.bind_some, if_neg (hplus _ hhigh),
        hexDigit?_digitChar hhigh, Option.map_some]
    | plus hdigit =>
      rw [readByte_pair, hexDigit?_digitChar hdigit, Option.bind_some, if_pos rfl]

/-- No mark is part of a group. -/
lemma IsGroup.not_isMark (h : IsGroup group b) : ∀ c ∈ group, ¬ IsMark c := by
  have hdigit : ∀ d < 16, ¬ IsMark (Nat.digitChar d) := by decide
  cases h with
  | pair h =>
    obtain ⟨hhigh, hlow⟩ := h
    simpa using ⟨hdigit _ hhigh, hdigit _ hlow⟩
  | plus h => simpa using ⟨by decide, hdigit _ h⟩

/-! ## Groups in a row -/

/-- The same mark for both. -/
def unifyMark (c : Char) : Char :=
  if c = '-' then ':' else c

lemma normalize_eq (s : String) : normalize s = (lowercase (trim s)).toList.map unifyMark := rfl

lemma unifyMark_eq_colon_iff : unifyMark c = ':' ↔ IsMark c := by
  unfold unifyMark IsMark
  split <;> simp_all

lemma unifyMark_of_not_isMark (h : ¬ IsMark c) : unifyMark c = c :=
  if_neg fun hdash => h (.inr hdash)

lemma map_unifyMark (h : ∀ c ∈ group, ¬ IsMark c) : group.map unifyMark = group :=
  map_eq_self fun c hc => unifyMark_of_not_isMark (h c hc)

lemma splitOn_of_not_isMark (h : ∀ c ∈ group, ¬ IsMark c) :
    (group.map unifyMark).splitOn ':' = [group] := by
  have hcolon : ':' ∉ group := fun hmem => h _ hmem (.inl rfl)
  rw [map_unifyMark h, List.splitOn_eq_singleton hcolon]

lemma splitOn_append_mark (h : ∀ c ∈ group, ¬ IsMark c) {mark : Char} (hmark : IsMark mark)
    (rest : List Char) :
    ((group ++ mark :: rest).map unifyMark).splitOn ':' =
      group :: (rest.map unifyMark).splitOn ':' := by
  have hcolon : ':' ∉ group := fun hmem => h _ hmem (.inl rfl)
  rw [List.map_append, List.map_cons, map_unifyMark h, unifyMark_eq_colon_iff.2 hmark,
    List.splitOn_append_cons_self_of_not_mem hcolon]

/-- A text is one part, or has a first part with a mark behind it. -/
lemma eq_part_or_append_mark (cs : List Char) : (∀ c ∈ cs, ¬ IsMark c) ∨
    ∃ group mark rest, cs = group ++ mark :: rest ∧ (∀ c ∈ group, ¬ IsMark c) ∧ IsMark mark := by
  cases hfind : cs.find? (IsMark ·) with
  | none => exact .inl (by simpa using hfind)
  | some mark =>
    obtain ⟨hmark, group, rest, rfl, hgroup⟩ := List.find?_eq_some_iff_append.1 hfind
    exact .inr ⟨group, mark, rest, rfl, by simpa using hgroup, by simpa using hmark⟩

/-- The bytes that are read are those that are spelled. -/
lemma mapM_readByte_eq_some_iff (hcs : ∀ c ∈ cs, c.isUpper = false) :
    ((cs.map unifyMark).splitOn ':').mapM readByte = some bs ↔ Spells IsGroup cs bs := by
  constructor
  · -- by induction on the bytes, the text being taken apart at its first mark
    intro h
    induction bs generalizing cs with
    | nil =>
      obtain ⟨part, parts, hparts⟩ :=
        List.exists_cons_of_ne_nil (List.splitOn_ne_nil ':' (cs.map unifyMark))
      rw [hparts, mapM_cons_eq_some_iff] at h
      obtain ⟨_, _, _, _, hnil⟩ := h
      cases hnil
    | cons b bs ih =>
      rcases eq_part_or_append_mark cs with hpart | ⟨group, mark, rest, rfl, hpart, hmark⟩
      · rw [splitOn_of_not_isMark hpart, mapM_cons_eq_some_iff] at h
        obtain ⟨b', bs', hb, hnil, heq⟩ := h
        obtain rfl : [] = bs' := Option.some.inj hnil
        obtain ⟨rfl, rfl⟩ := List.cons.inj heq
        exact .last ((readByte_eq_some_iff hcs).1 hb)
      · simp only [List.mem_append, List.mem_cons] at hcs
        rw [splitOn_append_mark hpart hmark, mapM_cons_eq_some_iff] at h
        obtain ⟨b', bs', hb, hrest, heq⟩ := h
        obtain ⟨rfl, rfl⟩ := List.cons.inj heq
        have hgroup := (readByte_eq_some_iff fun c hc => hcs c (.inl hc)).1 hb
        exact .more hgroup hmark (ih (fun c hc => hcs c (.inr (.inr hc))) hrest)
  · intro h
    induction h with
    | last hgroup =>
      rw [splitOn_of_not_isMark hgroup.not_isMark, mapM_cons_eq_some_iff]
      exact ⟨_, [], (readByte_eq_some_iff hcs).2 hgroup, rfl, rfl⟩
    | more hgroup hmark _ ih =>
      simp only [List.mem_append, List.mem_cons] at hcs
      rw [splitOn_append_mark hgroup.not_isMark hmark, mapM_cons_eq_some_iff]
      exact ⟨_, _, (readByte_eq_some_iff fun c hc => hcs c (.inl hc)).2 hgroup,
        ih fun c hc => hcs c (.inr (.inr hc)), rfl⟩

/-! ## Plus signs -/

lemma IsPair.notMem_plus (h : IsPair group b) : '+' ∉ group := by
  have hdigit : ∀ d < 16, '+' ≠ Nat.digitChar d := by decide
  obtain ⟨hhigh, hlow⟩ := h
  simp [hdigit _ hhigh, hdigit _ hlow]

lemma IsGroup.isPair (h : IsGroup group b) (hplus : '+' ∉ group) : IsPair group b := by
  cases h with
  | pair h => exact h
  | plus h => exact (hplus List.mem_cons_self).elim

lemma Spells.notMem_plus (h : Spells IsPair cs bs) : '+' ∉ cs := by
  induction h with
  | last hgroup => exact hgroup.notMem_plus
  | @more _ _ mark _ _ hgroup hmark _ ih =>
    have hne : '+' ≠ mark := by
      rintro rfl
      exact absurd hmark (by decide)
    simp only [List.mem_append, List.mem_cons, not_or]
    exact ⟨hgroup.notMem_plus, hne, ih⟩

/-- Pairs spell what groups spell in texts without a plus sign. -/
lemma spells_isPair_iff : Spells IsPair cs bs ↔ Spells IsGroup cs bs ∧ '+' ∉ cs := by
  constructor
  · intro h
    exact ⟨h.mono fun _ _ _ hgroup => .pair hgroup, h.notMem_plus⟩
  · rintro ⟨h, hplus⟩
    exact h.mono fun _ _ hsub hgroup => hgroup.isPair fun hmem => hplus (hsub _ hmem)

/-! ## Reading -/

/-- What is wrong with a text that is no hardware address. -/
def textFault (s : String) : HwAddrFault :=
  if trim s = "" then .empty else .malformed s

lemma ofText_eq (s : String) : ofText s =
    match ((normalize s).splitOn ':').mapM readByte with
    | some bytes => .ok ⟨bytes⟩
    | none => .error (textFault s) := by
  have hempty : (normalize s).isEmpty ↔ trim s = "" := by
    rw [normalize_eq, List.isEmpty_iff, List.map_eq_nil_iff, String.toList_eq_nil_iff,
      lowercase_eq_empty_iff]
  simp only [ofText, hempty, textFault]
  split
  · next htrim =>
    -- an empty text is one part, which is no byte
    rw [normalize_eq, lowercase_eq_empty_iff.2 htrim]
    rfl
  · cases ((normalize s).splitOn ':').mapM readByte <;> rfl

/-- The bytes that a text is read as are those that it spells. -/
lemma read_eq_some_iff (s : String) :
    ((normalize s).splitOn ':').mapM readByte = some bs ↔
      Spells IsGroup (lowercase (trim s)).toList bs :=
  mapM_readByte_eq_some_iff fun _ hc => isUpper_of_mem_lowercase hc

lemma ofText_eq_ok_iff {a : HwAddr} :
    ofText s = .ok a ↔ Spells IsGroup (lowercase (trim s)).toList a.bytes := by
  rw [← read_eq_some_iff, ofText_eq]
  cases ((normalize s).splitOn ':').mapM readByte with
  | none => simp
  | some bytes =>
    cases a
    simp

lemma ofText_eq_error_iff {e : HwAddrFault} : ofText s = .error e ↔
    (∀ bytes, ¬ Spells IsGroup (lowercase (trim s)).toList bytes) ∧ e = textFault s := by
  simp only [← read_eq_some_iff, ofText_eq]
  cases ((normalize s).splitOn ':').mapM readByte with
  | none => simp [eq_comm]
  | some bytes => simp

/-- **Hardware addresses are pairs of hexadecimal digits with colons or dashes between them, or have
a plus sign in them.** Trimmed and lowercased, a text is read as an address exactly if it spells the
bytes of it. It does so in pairs of digits exactly if it is read and has no plus sign. Every other
text is refused as an invalid request. -/
theorem texts_read (s : String) :
    (∀ a, ofText s = .ok a ↔ Spells IsGroup (lowercase (trim s)).toList a.bytes) ∧
    (∀ a, Spells IsPair (lowercase (trim s)).toList a.bytes ↔ ofText s = .ok a ∧ '+' ∉ s.toList) ∧
    ∀ e : LeaseError, (ofText s).mapError (.invalidRequest ∘ .hwAddr) = .error e ↔
      (∀ bytes, ¬ Spells IsGroup (lowercase (trim s)).toList bytes) ∧
        e = .invalidRequest (.hwAddr (textFault s)) := by
  refine ⟨fun a => ofText_eq_ok_iff, ?_, ?_⟩
  · intro a
    have hplus : '+' ∈ (lowercase (trim s)).toList ↔ '+' ∈ s.toList := by
      rw [mem_lowercase_iff (by decide), mem_trim_iff (by decide)]
    rw [ofText_eq_ok_iff, spells_isPair_iff, hplus]
  · intro e
    simp only [mapError_eq_error_iff, ofText_eq_error_iff]
    constructor
    · rintro ⟨fault, ⟨hnone, rfl⟩, rfl⟩
      exact ⟨hnone, rfl⟩
    · rintro ⟨hnone, rfl⟩
      exact ⟨_, ⟨hnone, rfl⟩, rfl⟩

/-- Six groups, the first of which is a plus sign with a digit, are read as six bytes. -/
theorem plus_sign_read : ofText "+1:02:03:04:05:06" = .ok ⟨[1, 2, 3, 4, 5, 6]⟩ ∧
    ∀ bytes, ¬ Spells IsPair (lowercase (trim "+1:02:03:04:05:06")).toList bytes := by
  refine ⟨by decide +kernel, ?_⟩
  intro bytes h
  exact h.notMem_plus (by decide +kernel)

end HwAddr

end DhcpLeasing
