import DhcpLeasing.AddressPool
import DhcpLeasing.Proofs.Config

/-!
# The addresses of a pool

What an address pool that a configuration describes may give away:

* `AddressPool.OfConfig.nextCandidate_eq_some_iff`: the candidate is the lowest address of the
  window that is not taken;
* `AddressPool.OfConfig.contains_of_inDynamicRange`: every address of the window is one that a
  dynamic lease may be for, whether the configuration has been checked or not;
* `AddressPool.ofV4_inSubnet_of_contains`: in a checked configuration every address that a dynamic
  lease may be for is in the subnet, and somebody may hold it.
-/

namespace DhcpLeasing

namespace IpAddr

/-- The number of bits in the addresses of a family. -/
def width : Family → ℕ
  | .v4 => 32
  | .v6 => 128

lemma number_ofNumber {f : Family} {n : ℕ} (h : n < 2 ^ width f) : (ofNumber f n).number = n := by
  cases f with
  | v4 => exact Nat.mod_eq_of_lt h
  | v6 => exact Nat.mod_eq_of_lt h

end IpAddr

namespace AddressPool

variable {p : AddressPool} {ip : IpAddr}

/-! ## Candidates -/

lemma leastFree_eq_some_iff {free : ℕ → Bool} {n count m : ℕ} :
    leastFree free n count = some m ↔
      (n ≤ m ∧ m < n + count) ∧ free m ∧ ∀ k, n ≤ k → k < m → free k = false := by
  induction count generalizing n with
  | zero =>
    simp only [leastFree, reduceCtorEq, false_iff, not_and]
    omega
  | succ count ih =>
    rw [leastFree]
    split
    · next hfree =>
      rw [Option.some.injEq]
      constructor
      · intro hnm
        subst hnm
        refine ⟨by omega, hfree, ?_⟩
        intro k hk hlt
        omega
      · rintro ⟨⟨hle, -⟩, -, hleast⟩
        -- a larger number would have to be preceded by taken ones only
        by_contra hne
        rw [hleast n le_rfl (by omega)] at hfree
        exact absurd hfree (by decide)
    · next hfree =>
      rw [ih]
      constructor
      · rintro ⟨⟨hle, hlt⟩, hm, hleast⟩
        refine ⟨by omega, hm, ?_⟩
        intro k hk hkm
        rcases Nat.eq_or_lt_of_le hk with rfl | hk
        · simpa using hfree
        · exact hleast k hk hkm
      · rintro ⟨⟨hle, hlt⟩, hm, hleast⟩
        have hne : n ≠ m := by
          intro hnm
          subst hnm
          exact hfree hm
        refine ⟨by omega, hm, ?_⟩
        intro k hk hkm
        exact hleast k (by omega) hkm

lemma inDynamicRange_iff :
    p.inDynamicRange ip ↔
      ip.family = p.family ∧ (p.first ≤ ip.number ∧ ip.number ≤ p.last) ∧ p.isKept ip = false := by
  simp [inDynamicRange, and_assoc]

/-- In IPv4 a dynamic lease may be for the addresses of the window. -/
lemma contains_ofV4 (c : V4Config) (ip : IpAddr) :
    (ofV4 c).contains ip = (ofV4 c).inDynamicRange ip := by
  cases ip <;> simp [contains, inDynamicRange, ofV4, IpAddr.family]

/-- In IPv6 a dynamic lease may be for the addresses of the subnet. -/
lemma contains_ofV6 (c : V6Config) (ip : IpAddr) :
    (ofV6 c).contains ip = (c.isStateful && (ofV6 c).inSubnet ip) := by
  have hne : (Family.v4 == Family.v6) = false := rfl
  cases ip <;> simp [contains, inSubnet, ofV6, IpAddr.family, hne]

/-- The window of an IPv6 pool ends before the bits of its subnet change. -/
lemma div_of_window_ofV6 {c : V6Config} {n : ℕ} (hfirst : (ofV6 c).first ≤ n)
    (hlast : n ≤ (ofV6 c).last) : n / 2 ^ 64 = c.rangeStart.bits.toNat / 2 ^ 64 := by
  have hlow : c.rangeStart.bits.toNat ≤ n := hfirst
  have hhigh : n ≤ c.rangeStart.bits.toNat ||| 0xff := hlast
  have hdiv : (c.rangeStart.bits.toNat ||| 0xff) / 2 ^ 64 = c.rangeStart.bits.toNat / 2 ^ 64 := by
    rw [Nat.or_div_two_pow]
    simp
  exact le_antisymm (hdiv ▸ Nat.div_le_div_right hhigh) (Nat.div_le_div_right hlow)

/-- In the subnet of an IPv6 pool are the addresses that agree in the bits above the lower 64. -/
lemma inSubnet_ofV6 (c : V6Config) (a : Ipv6) : (ofV6 c).inSubnet (.v6 a) ↔
    a.bits.toNat / 2 ^ 64 = c.rangeStart.bits.toNat / 2 ^ 64 := by
  have hmask : v6Mask = 2 ^ 128 - 2 ^ 64 := by decide
  simp only [inSubnet, ofV6, IpAddr.family, IpAddr.number, hmask, beq_self_eq_true, Bool.true_and,
    beq_iff_eq]
  rw [and_mask a.bits.isLt (by decide), and_mask c.rangeStart.bits.isLt (by decide),
    Nat.mul_left_inj (Nat.two_pow_pos 64).ne']

/-- A pool that a configuration describes. -/
inductive OfConfig : AddressPool → Prop
  | v4 (c : V4Config) : OfConfig (.ofV4 c)
  | v6 (c : V6Config) : OfConfig (.ofV6 c)

namespace OfConfig

lemma last_lt (h : p.OfConfig) : p.last < 2 ^ IpAddr.width p.family := by
  cases h with
  | v4 c => exact c.rangeEnd.bits.isLt
  | v6 c =>
    have hbyte : 0xff < 2 ^ 128 := by decide
    exact Nat.or_lt_two_pow c.rangeStart.bits.isLt hbyte

/-- The numbers of the window are those of its addresses. -/
lemma number_ofNumber (h : p.OfConfig) {n : ℕ} (hn : n ≤ p.last) :
    (IpAddr.ofNumber p.family n).number = n :=
  IpAddr.number_ofNumber (hn.trans_lt h.last_lt)

/-- The candidate is the lowest address of the window that is not taken. -/
lemma nextCandidate_eq_some_iff (h : p.OfConfig) {taken : IpAddr → Bool} :
    p.nextCandidate taken = some ip ↔
      p.stateful ∧ p.inDynamicRange ip ∧ taken ip = false ∧
        ∀ ip', p.inDynamicRange ip' → ip'.number < ip.number → taken ip' := by
  -- the search goes by numbers and the statement by addresses; within the window they are the same
  have hspan : ∀ {n}, p.first ≤ n → n ≤ p.last → n < p.first + p.span := by
    intro n hfirst hlast
    unfold span
    omega
  unfold nextCandidate
  split
  · next hstateful =>
    simp only [hstateful, true_and, Option.map_eq_some_iff, leastFree_eq_some_iff,
      Bool.and_eq_true, Bool.not_eq_true']
    constructor
    · rintro ⟨n, ⟨⟨hfirst, hlast⟩, ⟨hkept, hfree⟩, hleast⟩, rfl⟩
      have hle : n ≤ p.last := by
        unfold span at hlast
        omega
      have hn := h.number_ofNumber hle
      refine ⟨inDynamicRange_iff.2 ⟨by simp, by omega, hkept⟩, hfree, ?_⟩
      intro ip' hip' hlt
      obtain ⟨hfamily, hrange, hkept'⟩ := inDynamicRange_iff.1 hip'
      have hip'' : IpAddr.ofNumber p.family ip'.number = ip' := by
        rw [← hfamily, IpAddr.ofNumber_number]
      have htaken := hleast ip'.number hrange.1 (by omega)
      simpa [hip'', hkept'] using htaken
    · rintro ⟨hip, hfree, hleast⟩
      obtain ⟨hfamily, hrange, hkept⟩ := inDynamicRange_iff.1 hip
      have hnumber : IpAddr.ofNumber p.family ip.number = ip := by
        rw [← hfamily, IpAddr.ofNumber_number]
      refine ⟨ip.number, ⟨⟨hrange.1, hspan hrange.1 hrange.2⟩, ?_, ?_⟩, hnumber⟩
      · rw [hnumber]
        exact ⟨hkept, hfree⟩
      · intro k hk hlt
        have hkn := h.number_ofNumber (hlt.le.trans hrange.2)
        cases hkept' : p.isKept (.ofNumber p.family k) with
        | true => rfl
        | false =>
          have hin : p.inDynamicRange (.ofNumber p.family k) :=
            inDynamicRange_iff.2 ⟨by simp, by omega, hkept'⟩
          simp [hleast _ hin (by omega)]
  · next hstateful => simp [hstateful]

/-- Every address of the window is one that a dynamic lease may be for. -/
lemma contains_of_inDynamicRange (h : p.OfConfig) (hstateful : p.stateful)
    (hip : p.inDynamicRange ip) : p.contains ip := by
  obtain ⟨hfamily, hrange, -⟩ := inDynamicRange_iff.1 hip
  cases h with
  | v4 c => rwa [contains_ofV4]
  | v6 c =>
    cases ip with
    | v4 a => simp [ofV6, IpAddr.family] at hfamily
    | v6 a =>
      have hsubnet : (ofV6 c).inSubnet (.v6 a) :=
        (inSubnet_ofV6 c a).2 (div_of_window_ofV6 hrange.1 hrange.2)
      rw [contains_ofV6, hsubnet, Bool.and_true]
      exact hstateful

end OfConfig

/-! ## Addresses that leases may be for -/

lemma checkStatic_eq_ok_iff :
    p.checkStatic ip = .ok () ↔
      ip.family = p.family ∧ p.inSubnet ip ∧ p.isKept ip = false := by
  unfold checkStatic
  simp only [bind, Except.bind, pure, Except.pure, throw, throwThe, MonadExceptOf.throw]
  grind

lemma inSubnet_ofV4 (c : V4Config) (a : Ipv4) : (ofV4 c).inSubnet (.v4 a) = c.inSubnet a := by
  rw [Bool.eq_iff_iff, V4Config.inSubnet, beq_iff_eq, ← BitVec.toNat_inj, BitVec.toNat_and,
    BitVec.toNat_and]
  simp [inSubnet, ofV4, IpAddr.family, IpAddr.number]

lemma inDynamicRange_ofV4 (c : V4Config) (a : Ipv4) :
    (ofV4 c).inDynamicRange (.v4 a) ↔
      c.inRange a ∧ a ≠ c.gateway ∧ a ≠ c.network ∧ a ≠ c.broadcast := by
  rw [inDynamicRange_iff, V4Config.inRange_iff]
  simp [ofV4, IpAddr.family, IpAddr.number, isKept]

/-- In the pool of a checked range every address that a dynamic lease may be for is in the subnet,
and none of those that nobody may hold. -/
lemma ofV4_inSubnet_of_contains {c : V4Config} (h : c.validate = .ok ())
    (hip : (ofV4 c).contains ip) : (ofV4 c).inSubnet ip ∧ (ofV4 c).isKept ip = false := by
  rw [contains_ofV4] at hip
  obtain ⟨hfamily, -, hkept⟩ := inDynamicRange_iff.1 hip
  cases ip with
  | v6 a => simp [ofV4, IpAddr.family] at hfamily
  | v4 a =>
    rw [inSubnet_ofV4]
    exact ⟨V4Config.inSubnet_of_inRange h ((inDynamicRange_ofV4 c a).1 hip).1, hkept⟩

lemma ofV6_inSubnet_of_contains {c : V6Config} (hip : (ofV6 c).contains ip) :
    (ofV6 c).inSubnet ip ∧ (ofV6 c).isKept ip = false := by
  rw [contains_ofV6, Bool.and_eq_true] at hip
  exact ⟨hip.2, rfl⟩

end AddressPool

end DhcpLeasing
