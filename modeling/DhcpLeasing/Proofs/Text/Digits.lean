import DhcpLeasing.Text.Digits
import Mathlib.Data.Nat.Digits.Defs

/-!
# Digits, written and read

What the digits of a number look like, in decimal, padded or not, and in hexadecimal, and that they
are read as the number.
-/

namespace DhcpLeasing.Text

variable {n k width : ℕ} {c : Char}

/-! ## Decimal -/

lemma isDigit_of_mem_decimal (h : c ∈ decimal n) : c.isDigit :=
  Nat.isDigit_of_mem_toDigits (by decide) (by decide) h

lemma decimal_ne_nil (n : ℕ) : decimal n ≠ [] :=
  List.ne_nil_of_length_pos Nat.length_toDigits_pos

lemma length_decimal_le_iff (hk : 0 < k) : (decimal n).length ≤ k ↔ n < 10 ^ k :=
  Nat.length_toDigits_le_iff (by decide) hk

/-- Only zero is written with a zero in front. -/
lemma eq_zero_of_head?_decimal (h : (decimal n).head? = some '0') : n = 0 := by
  induction n using Nat.strongRecOn with
  | ind n ih =>
    rw [decimal, Nat.toDigits_eq_if (by decide)] at h
    split at h
    · next hlt =>
      -- ten digits to look at
      have hdigit : ∀ d < 10, [Nat.digitChar d].head? = some '0' → d = 0 := by decide
      exact hdigit n hlt h
    · next hle =>
      obtain ⟨first, rest, hfirst⟩ := List.exists_cons_of_ne_nil (decimal_ne_nil (n / 10))
      rw [← decimal, hfirst] at h
      have hzero := ih (n / 10) (by omega) (hfirst ▸ h)
      omega

lemma ofDigitChars_lt {ds : List Char} (hds : ∀ c ∈ ds, c.isDigit) (init : ℕ) :
    Nat.ofDigitChars 10 ds init < 10 ^ ds.length * (init + 1) := by
  induction ds generalizing init with
  | nil => simp [Nat.ofDigitChars_nil]
  | cons d ds ih =>
    have hd := Char.isDigit_iff_toNat.1 (hds d (by simp))
    have hrest := ih (fun c hc => hds c (by simp [hc])) (10 * init + (d.toNat - '0'.toNat))
    have hdigit : d.toNat - '0'.toNat + 1 ≤ 10 := by
      change 48 ≤ d.toNat ∧ d.toNat ≤ 57 at hd
      change d.toNat - 48 + 1 ≤ 10
      omega
    rw [Nat.ofDigitChars_cons, List.length_cons, Nat.pow_succ, Nat.mul_assoc]
    refine hrest.trans_le (Nat.mul_le_mul_left _ ?_)
    omega

/-- A number has as many digits as it takes. -/
lemma ofDecimal_lt {ds : List Char} (hds : ∀ c ∈ ds, c.isDigit) :
    ofDecimal ds < 10 ^ ds.length := by
  have hlt := ofDigitChars_lt hds 0
  rwa [Nat.zero_add, Nat.mul_one] at hlt

/-! ## Decimal with leading zeros -/

lemma decimalPadded_eq (width n : ℕ) :
    decimalPadded width n = List.replicate (width - (decimal n).length) '0' ++ decimal n := rfl

lemma isDigit_of_mem_decimalPadded (h : c ∈ decimalPadded width n) : c.isDigit := by
  rw [decimalPadded_eq, List.mem_append, List.mem_replicate] at h
  rcases h with ⟨-, rfl⟩ | h
  · rfl
  · exact isDigit_of_mem_decimal h

lemma decimalPadded_ne_nil (width n : ℕ) : decimalPadded width n ≠ [] := by
  rw [decimalPadded_eq]
  exact List.append_ne_nil_of_right_ne_nil _ (decimal_ne_nil n)

lemma length_decimalPadded (hwidth : 0 < width) (h : n < 10 ^ width) :
    (decimalPadded width n).length = width := by
  have hlength := (length_decimal_le_iff hwidth).2 h
  rw [decimalPadded_eq, List.length_append, List.length_replicate]
  omega

lemma ofDecimal_decimalPadded (width n : ℕ) : ofDecimal (decimalPadded width n) = n := by
  rw [decimalPadded_eq, ofDecimal, Nat.ofDigitChars_append, Nat.ofDigitChars_replicate_zero,
    Nat.mul_zero]
  exact ofDecimal_decimal n

/-! ## Digits at the head of a text -/

/-- What does not go on with a digit. -/
def EndsDigits (rest : List Char) : Prop :=
  ∀ c ∈ rest.head?, ¬ c.isDigit

lemma EndsDigits.dropWhile {rest : List Char} (h : EndsDigits rest) :
    rest.dropWhile Char.isDigit = rest := by
  cases rest with
  | nil => rfl
  | cons c rest => rw [List.dropWhile_cons_of_neg (h c rfl)]

lemma takeWhile_isDigit_append {ds rest : List Char} (hds : ∀ c ∈ ds, c.isDigit)
    (hrest : EndsDigits rest) : (ds ++ rest).takeWhile Char.isDigit = ds := by
  rw [List.takeWhile_append_of_pos hds]
  cases rest with
  | nil => simp
  | cons c rest => rw [List.takeWhile_cons_of_neg (hrest c rfl), List.append_nil]

lemma dropWhile_isDigit_append {ds rest : List Char} (hds : ∀ c ∈ ds, c.isDigit)
    (hrest : EndsDigits rest) : (ds ++ rest).dropWhile Char.isDigit = rest := by
  rw [List.dropWhile_append_of_pos hds, hrest.dropWhile]

lemma ne_of_digits {c : Char} {ds : List Char} (hds : ∀ c ∈ ds, c.isDigit) (hne : ds ≠ [])
    (hc : ¬ c.isDigit) (rest tail : List Char) : ds ++ rest ≠ c :: tail := by
  obtain ⟨d, ds, rfl⟩ := List.exists_cons_of_ne_nil hne
  intro heq
  obtain ⟨rfl, -⟩ := List.cons.inj heq
  exact hc (hds d (by simp))

/-! ## Hexadecimal -/

lemma hexDigit?_digitChar {d : ℕ} (h : d < 16) : hexDigit? (Nat.digitChar d) = some d := by
  have hall : ∀ d < 16, hexDigit? (Nat.digitChar d) = some d := by decide
  exact hall d h

lemma ofHex?_append_singleton (digits : List Char) (c : Char) :
    ofHex? (digits ++ [c]) = (ofHex? digits).bind fun n => (hexDigit? c).map (16 * n + ·) := by
  rw [ofHex?, List.foldl_append, ← ofHex?, List.foldl_cons, List.foldl_nil]
  cases ofHex? digits with
  | none => rfl
  | some n => cases hexDigit? c <;> rfl

lemma ofHex?_toDigits (n : ℕ) : ofHex? (Nat.toDigits 16 n) = some n := by
  induction n using Nat.strongRecOn with
  | ind n ih =>
    rw [Nat.toDigits_eq_if (by decide)]
    split
    · next hlt =>
      have hone : ofHex? ([] ++ [Nat.digitChar n]) = some (16 * 0 + n) := by
        rw [ofHex?_append_singleton, hexDigit?_digitChar hlt]
        rfl
      simpa using hone
    · rw [ofHex?_append_singleton, ih (n / 16) (by omega),
        hexDigit?_digitChar (Nat.mod_lt n (by decide)), Option.bind_some, Option.map_some,
        Nat.div_add_mod]

/-- A character of a number in lowercase hexadecimal. -/
def IsHexDigit (c : Char) : Prop :=
  ∃ d < 16, c = Nat.digitChar d

lemma isHexDigit_of_mem_toDigits (h : c ∈ Nat.toDigits 16 n) : IsHexDigit c := by
  induction n using Nat.strongRecOn with
  | ind n ih =>
    rw [Nat.toDigits_eq_if (by decide)] at h
    split at h
    · next hlt => exact ⟨n, hlt, by simpa using h⟩
    · rcases List.mem_append.1 h with h | h
      · exact ih (n / 16) (by omega) h
      · exact ⟨n % 16, Nat.mod_lt n (by decide), by simpa using h⟩

lemma IsHexDigit.ne {c : Char} (h : IsHexDigit c) : c ≠ ':' ∧ c ≠ '.' ∧ c ≠ '-' := by
  have hall : ∀ d < 16, Nat.digitChar d ≠ ':' ∧ Nat.digitChar d ≠ '.' ∧ Nat.digitChar d ≠ '-' := by
    decide
  obtain ⟨d, hd, rfl⟩ := h
  exact hall d hd

end DhcpLeasing.Text
