import DhcpLeasing.Echo
import Mathlib

/-!
# The checksum of echo messages

The checksum of a message is the Internet checksum: the complement of the one's-complement sum of
its words. The code adds the words in 32 bits and folds the carries in afterwards; `onesSum` folds
each carry in at once. Both come to the same `residue` of the sum:

* `toNat_wordSum` and `sum_words_lt`: the 32 bits are enough for messages of 131074 bytes;
* `foldCarries_turns`: the carries are folded in after two turns at most;
* `checksum_verifies`: a message with its checksum in it has the checksum 0, and so has a request.
-/

namespace DhcpLeasing.Echo

variable {message : List UInt8} {high low : UInt8} {w : UInt16} {s : UInt32}

/-! ## Words -/

/-- The word of two bytes, the high one first. -/
def wordOf (high low : UInt8) : UInt16 :=
  .ofNat (high.toNat * 256 + low.toNat)

/-- The words of a message. A last odd byte is taken with a zero behind it. -/
def words : List UInt8 → List UInt16
  | [] => []
  | [high] => [wordOf high 0]
  | high :: low :: rest => wordOf high low :: words rest

/-- The words of a message, added up without bounds. -/
def total (message : List UInt8) : ℕ :=
  ((words message).map UInt16.toNat).sum

lemma toNat_wordOf (high low : UInt8) :
    (wordOf high low).toNat = high.toNat * 256 + low.toNat := by
  have hhigh := high.toNat_lt
  have hlow := low.toNat_lt
  rw [wordOf, UInt16.toNat_ofNat']
  omega

/-- The bytes of a word are those that it is of. -/
lemma wordBytes_eq (w : UInt16) : ∃ high low, wordBytes w = [high, low] ∧ wordOf high low = w := by
  refine ⟨_, _, rfl, ?_⟩
  have hw := w.toNat_lt
  apply UInt16.toNat_inj.1
  rw [toNat_wordOf]
  simp only [UInt16.toNat_toUInt8, UInt16.toNat_shiftRight, Nat.shiftRight_eq_div_pow]
  have height : (8 : UInt16).toNat % 16 = 8 := rfl
  rw [height]
  omega

lemma length_words (message : List UInt8) :
    (words message).length = (message.length + 1) / 2 := by
  induction message using words.induct with
  | case1 => rfl
  | case2 high => simp [words]
  | case3 high low rest ih =>
    rw [words, List.length_cons, ih, List.length_cons, List.length_cons]
    omega

/-- Behind an even number of bytes the words begin anew. -/
lemma words_append {before : List UInt8} (h : before.length % 2 = 0) (after : List UInt8) :
    words (before ++ after) = words before ++ words after := by
  induction before using words.induct with
  | case1 => rfl
  | case2 high => simp at h
  | case3 high low rest ih =>
    rw [List.length_cons, List.length_cons] at h
    show wordOf high low :: words (rest ++ after) = wordOf high low :: words rest ++ words after
    rw [ih (by omega), List.cons_append]

lemma words_wordBytes (w : UInt16) (after : List UInt8) :
    words (wordBytes w ++ after) = w :: words after := by
  obtain ⟨high, low, hbytes, rfl⟩ := wordBytes_eq w
  rw [hbytes]
  rfl

/-! ## The sum in 32 bits -/

lemma sum_le_of_words (ws : List UInt16) : (ws.map UInt16.toNat).sum ≤ ws.length * 65535 := by
  induction ws with
  | nil => simp
  | cons w rest ih =>
    have hw := w.toNat_lt
    rw [List.map_cons, List.sum_cons, List.length_cons]
    omega

/-- No part of the sum of 65537 words runs over 32 bits. -/
lemma sum_words_lt (h : message.length ≤ 131074) (k : ℕ) :
    (((words message).take k).map UInt16.toNat).sum < 2 ^ 32 := by
  have hsum := sum_le_of_words ((words message).take k)
  have hlength := length_words message
  rw [List.length_take] at hsum
  omega

lemma total_lt (h : message.length ≤ 131074) : total message < 2 ^ 32 := by
  have hsum := sum_words_lt h (words message).length
  rwa [List.take_length] at hsum

/-- What the code adds is the word of the two bytes. -/
lemma toNat_or_shift (high low : UInt8) :
    (high.toUInt32 <<< 8 ||| low.toUInt32).toNat = (wordOf high low).toNat := by
  have hhigh := high.toNat_lt
  have hlow := low.toNat_lt
  have height : (8 : UInt32).toNat % 32 = 8 := rfl
  rw [toNat_wordOf, UInt32.toNat_or, UInt32.toNat_shiftLeft, UInt8.toNat_toUInt32,
    UInt8.toNat_toUInt32, height, Nat.shiftLeft_eq, Nat.mod_eq_of_lt (by omega), Nat.mul_comm,
    ← Nat.two_pow_add_eq_or_of_lt (by omega)]

/-- The code adds the words up modulo 2^32. -/
lemma toNat_wordSum_mod (message : List UInt8) :
    (wordSum message).toNat = total message % 2 ^ 32 := by
  induction message using words.induct with
  | case1 => rfl
  | case2 high =>
    have hsingle : (high.toUInt32 <<< 8).toNat = (wordOf high 0).toNat := by
      rw [← toNat_or_shift]
      show _ = (high.toUInt32 <<< 8 ||| 0).toNat
      rw [UInt32.or_zero]
    have hw := (wordOf high 0).toNat_lt
    show (high.toUInt32 <<< 8).toNat = ((wordOf high 0).toNat + 0) % 2 ^ 32
    omega
  | case3 high low rest ih =>
    have hcons : total (high :: low :: rest) = (wordOf high low).toNat + total rest := rfl
    rw [wordSum, UInt32.toNat_add, toNat_or_shift, ih, hcons]
    omega

lemma toNat_wordSum (h : message.length ≤ 131074) : (wordSum message).toNat = total message := by
  rw [toNat_wordSum_mod, Nat.mod_eq_of_lt (total_lt h)]

/-! ## Residues -/

/-- What is left of a number when all multiples of 2^16 count as often as they go into it: 0 of 0
only, and otherwise the number from 1 to 65535 that is the same modulo 65535. -/
def residue (n : ℕ) : ℕ :=
  if n = 0 then 0 else (n - 1) % 65535 + 1

lemma residue_of_lt {n : ℕ} (h : n < 2 ^ 16) : residue n = n := by
  unfold residue
  split <;> omega

lemma residue_lt (n : ℕ) : residue n < 2 ^ 16 := by
  unfold residue
  split <;> omega

/-- A carry out of 16 bits counts 1. -/
lemma residue_carry (n : ℕ) : residue (n % 2 ^ 16 + n / 2 ^ 16) = residue n := by
  unfold residue
  split <;> split <;> omega

lemma residue_residue_add (a b : ℕ) : residue (residue a + b) = residue (a + b) := by
  unfold residue
  split <;> split <;> split <;> omega

/-- A number and the complement of its residue come to all ones. -/
lemma residue_add_complement (n : ℕ) : residue (n + (65535 - residue n)) = 65535 := by
  unfold residue
  split <;> split <;> omega

/-! ## Folding the carries in -/

/-- One turn of the folding: what has run over 16 bits is added to the low end. -/
def foldOnce (s : UInt32) : UInt32 :=
  (s &&& (0xffff : UInt32)) + s >>> 16

lemma foldCarries_eq (s : UInt32) :
    foldCarries s = if s >>> 16 = 0 then s else foldCarries (foldOnce s) := by
  rw [foldCarries]
  rfl

lemma shift_eq_zero_iff : s >>> 16 = 0 ↔ s.toNat < 2 ^ 16 := by
  rw [← UInt32.toNat_inj, UInt32.toNat_shiftRight, Nat.shiftRight_eq_div_pow]
  show s.toNat / 2 ^ 16 = 0 ↔ s.toNat < 2 ^ 16
  omega

lemma toNat_foldOnce (s : UInt32) :
    (foldOnce s).toNat = s.toNat % 2 ^ 16 + s.toNat / 2 ^ 16 := by
  have hs := s.toNat_lt
  have hlow : (s &&& 0xffff).toNat = s.toNat % 2 ^ 16 :=
    (UInt32.toNat_and s 0xffff).trans (Nat.and_two_pow_sub_one_eq_mod s.toNat 16)
  have hhigh : (s >>> 16).toNat = s.toNat / 2 ^ 16 := by
    rw [UInt32.toNat_shiftRight, Nat.shiftRight_eq_div_pow]
    rfl
  rw [foldOnce, UInt32.toNat_add, hlow, hhigh]
  omega

/-- The carries are folded in until nothing runs over, which takes two turns at most: the first one
leaves one carry at most, and with it the low end is far from running over again. -/
lemma foldCarries_turns (s : UInt32) : ∃ turns ≤ 2, foldCarries s = foldOnce^[turns] s ∧
    foldOnce^[turns] s >>> 16 = 0 ∧ ∀ k < turns, foldOnce^[k] s >>> 16 ≠ 0 := by
  have hs := s.toNat_lt
  have honce := toNat_foldOnce s
  have htwice := toNat_foldOnce (foldOnce s)
  by_cases h₀ : s >>> 16 = 0
  · refine ⟨0, by omega, ?_, h₀, by simp⟩
    rw [foldCarries_eq, if_pos h₀, Function.iterate_zero_apply]
  · by_cases h₁ : foldOnce s >>> 16 = 0
    · refine ⟨1, by omega, ?_, h₁, ?_⟩
      · rw [foldCarries_eq, if_neg h₀, foldCarries_eq, if_pos h₁, Function.iterate_one]
      · intro k hk
        obtain rfl : k = 0 := by omega
        exact h₀
    · have h₂ : foldOnce (foldOnce s) >>> 16 = 0 := by
        rw [shift_eq_zero_iff] at *
        omega
      refine ⟨2, le_rfl, ?_, h₂, ?_⟩
      · rw [foldCarries_eq, if_neg h₀, foldCarries_eq, if_neg h₁, foldCarries_eq, if_pos h₂]
        rfl
      · intro k hk
        obtain rfl | rfl : k = 0 ∨ k = 1 := by omega
        · exact h₀
        · exact h₁

/-- Folding leaves the residue of the sum. -/
lemma toNat_foldCarries (s : UInt32) : (foldCarries s).toNat = residue s.toNat := by
  have hturn : ∀ k, residue (foldOnce^[k] s).toNat = residue s.toNat := by
    intro k
    induction k with
    | zero => rfl
    | succ k ih => rw [Function.iterate_succ_apply', toNat_foldOnce, residue_carry, ih]
  obtain ⟨turns, -, hfold, hdone, -⟩ := foldCarries_turns s
  rw [hfold, ← hturn turns, residue_of_lt (shift_eq_zero_iff.1 hdone)]

/-! ## The Internet checksum -/

/-- The one's-complement sum of two words: a carry out of the high end comes in at the low end. -/
def onesAdd (a b : UInt16) : UInt16 :=
  let sum := a.toNat + b.toNat
  .ofNat (if sum < 2 ^ 16 then sum else sum - 2 ^ 16 + 1)

/-- The one's-complement sum of words. -/
def onesSum (ws : List UInt16) : UInt16 :=
  ws.foldl onesAdd 0

lemma toNat_onesAdd (a b : UInt16) : (onesAdd a b).toNat = residue (a.toNat + b.toNat) := by
  have ha := a.toNat_lt
  have hb := b.toNat_lt
  simp only [onesAdd, UInt16.toNat_ofNat', residue]
  split <;> split <;> omega

lemma toNat_onesSum (ws : List UInt16) :
    (onesSum ws).toNat = residue (ws.map UInt16.toNat).sum := by
  have hfrom : ∀ a : UInt16,
      (ws.foldl onesAdd a).toNat = residue (a.toNat + (ws.map UInt16.toNat).sum) := by
    induction ws with
    | nil =>
      intro a
      exact (residue_of_lt a.toNat_lt).symm
    | cons w rest ih =>
      intro a
      rw [List.foldl_cons, ih, toNat_onesAdd, residue_residue_add, List.map_cons, List.sum_cons,
        Nat.add_assoc]
  rw [onesSum, hfrom, UInt16.toNat_zero, Nat.zero_add]

lemma toNat_checksum (h : message.length ≤ 131074) :
    (checksum message).toNat = 65535 - residue (total message) := by
  have hlt := residue_lt (total message)
  rw [checksum, UInt16.toNat_not, UInt32.toNat_toUInt16, toNat_foldCarries, toNat_wordSum h,
    Nat.mod_eq_of_lt hlt]
  rfl

lemma checksum_eq (h : message.length ≤ 131074) :
    checksum message = ~~~(onesSum (words message)) := by
  apply UInt16.toNat_inj.1
  rw [toNat_checksum h, UInt16.toNat_not, toNat_onesSum]
  rfl

/-! ## Checksums in messages -/

section Placed

variable {before after : List UInt8}

lemma total_placed (h : before.length % 2 = 0) (w : UInt16) :
    total (before ++ wordBytes w ++ after) = total (before ++ after) + w.toNat := by
  rw [total, total, List.append_assoc, words_append h, words_append h, words_wordBytes]
  simp only [List.map_append, List.map_cons, List.sum_append, List.sum_cons]
  omega

/-- With its checksum in the place of a zero word a message has the checksum 0. -/
lemma checksum_placed (h : before.length % 2 = 0)
    (hlength : (before ++ [0, 0] ++ after).length ≤ 131074) :
    checksum (before ++ wordBytes (checksum (before ++ [0, 0] ++ after)) ++ after) = 0 := by
  have hzero : total (before ++ [0, 0] ++ after) = total (before ++ after) := total_placed h 0
  have hlength' : ∀ w, (before ++ wordBytes w ++ after).length ≤ 131074 := by
    intro w
    simpa [wordBytes] using hlength
  apply UInt16.toNat_inj.1
  rw [toNat_checksum (hlength' _), total_placed h, toNat_checksum hlength, hzero,
    residue_add_complement]
  rfl

end Placed

/-! ## Requests -/

lemma length_payload : payload.length = 15 := by
  decide +kernel

lemma request_v4 (a : Ipv4) (identifier sequence : UInt16) :
    request (.v4 a) identifier sequence =
      [8, 0] ++ wordBytes (checksum ([8, 0] ++ [0, 0] ++
        (wordBytes identifier ++ wordBytes sequence ++ payload))) ++
        (wordBytes identifier ++ wordBytes sequence ++ payload) := rfl

/-- A request has its type and code first, then its checksum, the identifier, the sequence number,
and what it carries. -/
lemma words_request (a : Ipv4) (identifier sequence : UInt16) :
    ∃ sum, words (request (.v4 a) identifier sequence) =
      wordOf 8 0 :: sum :: identifier :: sequence :: words payload := by
  rw [request_v4]
  generalize checksum _ = sum
  refine ⟨sum, ?_⟩
  rw [List.append_assoc, words_append rfl, words_wordBytes, List.append_assoc, words_wordBytes,
    words_wordBytes]
  rfl

lemma checksum_request (a : Ipv4) (identifier sequence : UInt16) :
    checksum (request (.v4 a) identifier sequence) = 0 := by
  rw [request_v4]
  apply checksum_placed rfl
  simp [wordBytes, length_payload]

lemma isReply_request (ip : IpAddr) (a : Ipv4) (identifier sequence : UInt16) :
    isReply ip (request (.v4 a) identifier sequence) = false := by
  -- no header of an IP packet begins like a request
  have hstart : ∀ rest, messageStart (8 :: rest) = 0 := fun _ => rfl
  cases ip with
  | v4 _ => simp [isReply, IpAddr.family, request, requestType, replyType, hstart]
  | v6 _ => simp [isReply, IpAddr.family, request, requestType, replyType]

/-- **The checksum is the Internet checksum, and it verifies.** For every message of at most 131074
bytes 32 bits are enough for any part of the sum of its words, the carries are folded in after two
turns at most, and the checksum is the complement of the one's-complement sum of the words. With its
checksum in the place of a zero word at an even offset the message has the checksum 0. So has every
request to an IPv4 address, which carries identifier and sequence number at the offsets 4 and 6, as
its third and fourth word, and is not taken for a reply of any address. -/
theorem checksum_verifies :
    (∀ {message : List UInt8}, message.length ≤ 131074 →
      (∀ k, (((words message).take k).map UInt16.toNat).sum < 2 ^ 32) ∧
      (wordSum message).toNat = ((words message).map UInt16.toNat).sum ∧
      (∃ turns ≤ 2, foldCarries (wordSum message) = foldOnce^[turns] (wordSum message) ∧
        foldOnce^[turns] (wordSum message) >>> 16 = 0 ∧
        ∀ k < turns, foldOnce^[k] (wordSum message) >>> 16 ≠ 0) ∧
      checksum message = ~~~(onesSum (words message))) ∧
    (∀ {before after : List UInt8}, before.length % 2 = 0 →
      (before ++ [0, 0] ++ after).length ≤ 131074 →
        checksum (before ++ wordBytes (checksum (before ++ [0, 0] ++ after)) ++ after) = 0) ∧
    ∀ (a : Ipv4) (identifier sequence : UInt16),
      checksum (request (.v4 a) identifier sequence) = 0 ∧
      (words (request (.v4 a) identifier sequence))[2]? = some identifier ∧
      (words (request (.v4 a) identifier sequence))[3]? = some sequence ∧
      ∀ ip, isReply ip (request (.v4 a) identifier sequence) = false := by
  refine ⟨?_, checksum_placed, ?_⟩
  · intro message h
    exact ⟨sum_words_lt h, toNat_wordSum h, foldCarries_turns _, checksum_eq h⟩
  · intro a identifier sequence
    obtain ⟨sum, hwords⟩ := words_request a identifier sequence
    rw [hwords]
    exact ⟨checksum_request a identifier sequence, rfl, rfl,
      fun ip => isReply_request ip a identifier sequence⟩

/-- The words ffff, 0000, ffff and 0001 come to 1 with both carries folded in, so fffe is their
checksum. The last byte of an odd message is the high one of its word. -/
theorem exists_checksum_verifies :
    checksum [0xff, 0xff, 0, 0, 0xff, 0xff, 0, 1] = 0xfffe ∧
      checksum [0xff, 0xff, 0xff, 0xfe, 0xff, 0xff, 0, 1] = 0 ∧
      checksum [0x12, 0x34, 0x56] = 0x97cb := by
  have hsum : checksum [0xff, 0xff, 0, 0, 0xff, 0xff, 0, 1] = 0xfffe :=
    (checksum_verifies.1 (by decide)).2.2.2.trans (by decide)
  refine ⟨hsum, ?_, (checksum_verifies.1 (by decide)).2.2.2.trans (by decide)⟩
  have hplaced : checksum ([0xff, 0xff] ++
      wordBytes (checksum ([0xff, 0xff] ++ [0, 0] ++ [0xff, 0xff, 0, 1])) ++
        [0xff, 0xff, 0, 1]) = 0 :=
    checksum_verifies.2.1 (by decide) (by decide)
  have hmessage : [0xff, 0xff] ++ [0, 0] ++ [0xff, 0xff, 0, 1] =
      ([0xff, 0xff, 0, 0, 0xff, 0xff, 0, 1] : List UInt8) := rfl
  rw [hmessage, hsum] at hplaced
  exact hplaced

end DhcpLeasing.Echo
