import DhcpLeasing.Config.Validation
import DhcpLeasing.Proofs.Checks
import Mathlib

/-!
# Checked configurations

What the checks of a configuration promise to those who work with it:

* `Ipv4.toNat_of_isContiguousMask`: a mask that is let through is ones followed by zeros, so that
  masking an address rounds its number down to a multiple of a power of two;
* `V4Config.inSubnet_of_inRange`: all addresses of a range, not only its two ends, are in the subnet
  of the gateway;
* `Config.validate_interface`: a configuration in use has passed the checks of all its interfaces.
-/

namespace DhcpLeasing

/-! ## Masks -/

/-- A mask of ones above `s` zeros takes away the remainder by `2 ^ s`. -/
lemma and_mask {n w s : ℕ} (hn : n < 2 ^ w) (hs : s ≤ w) :
    n &&& (2 ^ w - 2 ^ s) = n / 2 ^ s * 2 ^ s := by
  have hpow : 2 ^ s ≤ 2 ^ w := Nat.pow_le_pow_right (by omega) hs
  have hpos : 0 < 2 ^ s := Nat.two_pow_pos s
  have hmask : ∀ i, (2 ^ w - 2 ^ s).testBit i = (decide (i < w) && !decide (i < s)) := by
    intro i
    have hsub : 2 ^ w - 2 ^ s = 2 ^ w - (2 ^ s - 1 + 1) := by omega
    rw [hsub, Nat.testBit_two_pow_sub_succ (by omega), Nat.testBit_two_pow_sub_one]
  apply Nat.eq_of_testBit_eq
  intro i
  rw [Nat.testBit_and, hmask, Nat.testBit_mul_two_pow, Nat.testBit_div_two_pow]
  by_cases hi : s ≤ i
  · have hle : i - s + s = i := by omega
    by_cases hw : i < w
    · simp [hi, hw, hle]
    · -- above its width `n` has no bits
      have hbit : n.testBit i = false :=
        Nat.testBit_lt_two_pow (hn.trans_le (Nat.pow_le_pow_right (by omega) (by omega)))
      simp [hbit, hle]
  · have hlt : i < s := by omega
    simp [hi, hlt]

namespace Ipv4

lemma of_lt_length_takeWhile {p : ℕ → Bool} {n i : ℕ}
    (h : i < ((List.range n).takeWhile p).length) : p i = true := by
  have hmem : ((List.range n).takeWhile p)[i] ∈ (List.range n).takeWhile p := List.getElem_mem h
  have hi : ((List.range n).takeWhile p)[i] = i := by
    rw [(List.takeWhile_prefix p).getElem, List.getElem_range]
  rw [hi] at hmem
  exact List.mem_takeWhile_imp hmem

/-- A contiguous mask has ones in its upper bits and zeros in its lower ones. -/
lemma getLsbD_of_isContiguousMask {mask : Ipv4} (h : mask.isContiguousMask) :
    ∃ s < 32, ∀ i < 32, mask.bits.getLsbD i = decide (s ≤ i) := by
  simp only [isContiguousMask, Bool.and_eq_true, bne_iff_ne, beq_iff_eq] at h
  obtain ⟨hne, hsum⟩ := h
  have hones : ∀ i < mask.leadingOnes, mask.bits.getMsbD i = true := by
    intro i hi
    exact of_lt_length_takeWhile hi
  have hzeros : ∀ i < mask.trailingZeros, mask.bits.getLsbD i = false := by
    intro i hi
    simpa using of_lt_length_takeWhile (p := fun i => !mask.bits.getLsbD i) hi
  have hbits : ∀ i < 32, mask.bits.getLsbD i = decide (mask.trailingZeros ≤ i) := by
    intro i hi
    by_cases hle : mask.trailingZeros ≤ i
    · -- ones and zeros make up all 32 bits, so what is no zero is counted from the other end
      have hone := hones (31 - i) (by omega)
      rw [BitVec.getMsbD_eq_getLsbD] at hone
      simp only [Bool.and_eq_true, decide_eq_true_eq] at hone
      have hback : 32 - 1 - (31 - i) = i := by omega
      rw [hback] at hone
      simp [hle, hone.2]
    · simp [hle, hzeros i (by omega)]
  refine ⟨mask.trailingZeros, ?_, hbits⟩
  -- with 32 zeros the mask would be zero, which is ruled out
  by_contra hlarge
  apply hne
  apply BitVec.eq_of_getLsbD_eq
  intro i hi
  have hlow : ¬ mask.trailingZeros ≤ i := by omega
  simp [hbits i hi, hlow]

/-- A contiguous mask as a number: ones followed by zeros. -/
lemma toNat_of_isContiguousMask {mask : Ipv4} (h : mask.isContiguousMask) :
    ∃ s < 32, mask.bits.toNat = 2 ^ 32 - 2 ^ s := by
  obtain ⟨s, hs, hbits⟩ := getLsbD_of_isContiguousMask h
  refine ⟨s, hs, ?_⟩
  have hsub : 2 ^ 32 - 2 ^ s = 2 ^ 32 - (2 ^ s - 1 + 1) := by
    have := Nat.two_pow_pos s
    omega
  have hlt : 2 ^ s - 1 < 2 ^ 32 := by
    have := Nat.pow_lt_pow_right (a := 2) (by omega) hs
    omega
  apply Nat.eq_of_testBit_eq
  intro i
  rw [hsub, Nat.testBit_two_pow_sub_succ hlt, Nat.testBit_two_pow_sub_one,
    BitVec.testBit_toNat]
  by_cases hi : i < 32
  · rw [hbits i hi, decide_eq_true hi, Bool.true_and, ← decide_not]
    exact decide_eq_decide.2 (by omega)
  · rw [BitVec.getLsbD_of_ge _ _ (by omega), decide_eq_false hi, Bool.false_and]

end Ipv4

/-! ## Ranges -/

namespace V4Config

variable {c : V4Config} {a : Ipv4}

lemma validate_eq_ok_iff :
    c.validate = .ok () ↔
      c.subnetMask.isContiguousMask ∧ c.gateway.bits ≠ 0 ∧ c.rangeStart.bits ≤ c.rangeEnd.bits ∧
        (c.inSubnet c.rangeStart ∧ c.inSubnet c.rangeEnd) ∧ ¬ c.inRange c.gateway ∧
          c.leaseSeconds ≠ 0 := by
  unfold validate
  simp only [bind, Except.bind, pure, Except.pure, throw, throwThe, MonadExceptOf.throw]
  have hle : c.rangeStart.bits ≤ c.rangeEnd.bits ↔ ¬ c.rangeEnd.bits < c.rangeStart.bits :=
    BitVec.not_lt.symm
  rw [hle]
  grind

lemma inRange_iff : c.inRange a ↔
    c.rangeStart.bits.toNat ≤ a.bits.toNat ∧ a.bits.toNat ≤ c.rangeEnd.bits.toNat := by
  simp [inRange, BitVec.le_def]

/-- In the subnet of a contiguous mask are the addresses that agree in the bits above its zeros. -/
lemma inSubnet_iff_div {s : ℕ} (hs : s < 32) (hmask : c.subnetMask.bits.toNat = 2 ^ 32 - 2 ^ s) :
    c.inSubnet a ↔ a.bits.toNat / 2 ^ s = c.gateway.bits.toNat / 2 ^ s := by
  rw [inSubnet, beq_iff_eq, ← BitVec.toNat_inj, BitVec.toNat_and, BitVec.toNat_and, hmask,
    and_mask a.bits.isLt hs.le, and_mask c.gateway.bits.isLt hs.le,
    Nat.mul_left_inj (Nat.two_pow_pos s).ne']

/-- All addresses of a checked range are in the subnet of the gateway. -/
lemma inSubnet_of_inRange (h : c.validate = .ok ()) (ha : c.inRange a) : c.inSubnet a := by
  obtain ⟨hmask, -, -, ⟨hstart, hend⟩, -⟩ := validate_eq_ok_iff.1 h
  obtain ⟨s, hs, hmask⟩ := Ipv4.toNat_of_isContiguousMask hmask
  obtain ⟨hfirst, hlast⟩ := inRange_iff.1 ha
  rw [inSubnet_iff_div hs hmask] at hstart hend ⊢
  -- rounding down is monotone, and both ends of the range are rounded to the same number
  have hlow := Nat.div_le_div_right (c := 2 ^ s) hfirst
  have hhigh := Nat.div_le_div_right (c := 2 ^ s) hlast
  omega

end V4Config

/-! ## Configurations -/

lemma InterfaceConfig.validate_v4 {name : String} {c : InterfaceConfig} {v4 : V4Config}
    (h : c.validate name = .ok ()) (hv4 : c.enabledV4 = some v4) : v4.validate = .ok () := by
  unfold validate at h
  simp only [bind, Except.bind, pure, Except.pure, throw, throwThe, MonadExceptOf.throw, hv4] at h
  split at h
  · simp at h
  · cases hcheck : v4.validate with
    | error e => simp [hcheck, Except.mapError] at h
    | ok u => rfl

/-- The interfaces of a checked configuration in use have passed their checks. -/
lemma Config.validate_interface {c : Config} {name : String} {i : InterfaceConfig}
    (hon : c.enabled = true) (h : c.validate = .ok ()) (hi : c.interfaces.get? name = some i) :
    i.validate name = .ok () := by
  unfold validate at h
  simp only [hon, if_true, bind, Except.bind, throw, throwThe, MonadExceptOf.throw] at h
  split at h
  · simp at h
  · exact forM_eq_ok_iff.1 h (name, i) (SortedMap.mem_toList_iff.2 hi)

end DhcpLeasing
