import DhcpLeasing.Proofs.AddressPool

/-!
# Pools agree with the ranges that they are made of

A range is described twice: by the configuration, which works with words of 32 or 128 bits, and by
the pool that is made of it, which works with numbers. What both say about an address is the same,
once the configuration has been checked:

* `AddressPool.toNat_size` and `AddressPool.OfConfig.ncard_window`: the size of a pool is the number
  of addresses in its window, and it neither underflows nor wraps;
* `V4Config.Coherent` and `V6Config.Coherent` say how a range, its subnet and its pool fit together;
* `Config.pools_coherent`: they do for every IPv4 range that has been checked, and for every IPv6
  range.
-/

namespace DhcpLeasing

namespace AddressPool

variable {p : AddressPool}

/-! ## Windows -/

/-- The addresses from the first to the last one of the window, those that nobody may hold among
them. -/
def window (p : AddressPool) : Set IpAddr :=
  {ip | ip.family = p.family ∧ p.first ≤ ip.number ∧ ip.number ≤ p.last}

/-- There are as many addresses in a window as numbers. -/
lemma OfConfig.ncard_window (h : p.OfConfig) : p.window.ncard = p.span := by
  have himage : p.window = IpAddr.ofNumber p.family '' Set.Icc p.first p.last := by
    ext ip
    constructor
    · rintro ⟨hfamily, hrange⟩
      exact ⟨ip.number, hrange, by rw [← hfamily, IpAddr.ofNumber_number]⟩
    · rintro ⟨n, hn, rfl⟩
      have hnumber := h.number_ofNumber hn.2
      exact ⟨IpAddr.family_ofNumber _ _, by rwa [hnumber]⟩
  have hinj : Set.InjOn (IpAddr.ofNumber p.family) (Set.Icc p.first p.last) := by
    intro m hm n hn heq
    rw [← h.number_ofNumber hm.2, heq, h.number_ofNumber hn.2]
  rw [himage, hinj.ncard_image, Set.ncard_eq_toFinset_card', Set.toFinset_Icc,
    Nat.card_Icc, span]

/-- A word of 128 bits holds the size of a window that does not end before it begins, unless every
address there is were in it. -/
lemma toNat_size (hle : p.first ≤ p.last) (hspan : p.span < 2 ^ 128) (hlast : p.last < 2 ^ 128) :
    p.size.toNat = p.span := by
  have hone : (1 : BitVec 128).toNat = 1 := rfl
  rw [size, BitVec.toNat_add, BitVec.toNat_sub, BitVec.toNat_ofNat, BitVec.toNat_ofNat, hone]
  unfold span at hspan ⊢
  omega

end AddressPool

/-! ## IPv4 -/

/-- How an IPv4 range, its subnet and its pool fit together. -/
structure V4Config.Coherent (c : V4Config) : Prop where
  /-- The mask is ones, at least one, and then zeros. -/
  mask : ∃ k, 1 ≤ k ∧ k ≤ 32 ∧ ∀ i < 32, c.subnetMask.bits.getMsbD i = decide (i < k)
  ordered : (AddressPool.ofV4 c).first ≤ (AddressPool.ofV4 c).last
  size : (AddressPool.ofV4 c).size.toNat = (AddressPool.ofV4 c).window.ncard
  window : ∀ {ip}, ip ∈ (AddressPool.ofV4 c).window ↔
    ∃ a, ip = .v4 a ∧ c.rangeStart.bits ≤ a.bits ∧ a.bits ≤ c.rangeEnd.bits
  /-- All of the window is in the subnet, in the words of both. -/
  inside : ∀ {a}, .v4 a ∈ (AddressPool.ofV4 c).window →
    c.inRange a ∧ c.inSubnet a ∧ (AddressPool.ofV4 c).inSubnet (.v4 a) ∧ a ≠ c.gateway
  dynamic_iff : ∀ {ip}, (AddressPool.ofV4 c).inDynamicRange ip ↔
    ∃ a, ip = .v4 a ∧ c.inRange a ∧ a ≠ c.network ∧ a ≠ c.broadcast
  allowed : ∀ {ip}, (AddressPool.ofV4 c).inDynamicRange ip →
    (AddressPool.ofV4 c).contains ip ∧ (AddressPool.ofV4 c).checkStatic ip = .ok ()

lemma Ipv4.getMsbD_of_isContiguousMask {mask : Ipv4} (h : mask.isContiguousMask) :
    ∃ k, 1 ≤ k ∧ k ≤ 32 ∧ ∀ i < 32, mask.bits.getMsbD i = decide (i < k) := by
  obtain ⟨s, hs, hbits⟩ := getLsbD_of_isContiguousMask h
  refine ⟨32 - s, by omega, by omega, ?_⟩
  intro i hi
  rw [BitVec.getMsbD_eq_getLsbD, hbits _ (by omega), decide_eq_true hi, Bool.true_and]
  exact decide_eq_decide.2 (by omega)

namespace V4Config

variable {c : V4Config}

lemma mem_window_iff {ip : IpAddr} : ip ∈ (AddressPool.ofV4 c).window ↔
    ∃ a, ip = .v4 a ∧ c.rangeStart.bits ≤ a.bits ∧ a.bits ≤ c.rangeEnd.bits := by
  cases ip <;>
    simp [AddressPool.window, AddressPool.ofV4, IpAddr.family, IpAddr.number, BitVec.le_def]

lemma inDynamicRange_iff_inRange (hgateway : ¬ c.inRange c.gateway) {ip : IpAddr} :
    (AddressPool.ofV4 c).inDynamicRange ip ↔
      ∃ a, ip = .v4 a ∧ c.inRange a ∧ a ≠ c.network ∧ a ≠ c.broadcast := by
  cases ip with
  | v6 a => simp [AddressPool.inDynamicRange_iff, AddressPool.ofV4, IpAddr.family]
  | v4 a =>
    have hne : c.inRange a → a ≠ c.gateway := by
      rintro ha rfl
      exact hgateway ha
    rw [AddressPool.inDynamicRange_ofV4]
    simp only [IpAddr.v4.injEq, exists_eq_left']
    constructor
    · rintro ⟨ha, -, hkept⟩
      exact ⟨ha, hkept⟩
    · rintro ⟨ha, hkept⟩
      exact ⟨ha, hne ha, hkept⟩

/-- A checked range fits together with its subnet and its pool. -/
lemma coherent_of_validate (h : c.validate = .ok ()) : c.Coherent := by
  obtain ⟨hmask, -, hle, -, hgateway, -⟩ := validate_eq_ok_iff.1 h
  have hpool : (AddressPool.ofV4 c).OfConfig := .v4 c
  have hordered : (AddressPool.ofV4 c).first ≤ (AddressPool.ofV4 c).last := BitVec.le_def.1 hle
  have hlast : (AddressPool.ofV4 c).last < 2 ^ 32 := hpool.last_lt
  refine ⟨Ipv4.getMsbD_of_isContiguousMask hmask, hordered, ?_, mem_window_iff, ?_,
    inDynamicRange_iff_inRange hgateway, ?_⟩
  · rw [hpool.ncard_window]
    apply AddressPool.toNat_size hordered
    · unfold AddressPool.span
      omega
    · omega
  · intro a ha
    obtain ⟨_, heq, hbits⟩ := mem_window_iff.1 ha
    obtain rfl := IpAddr.v4.inj heq
    have hrange : c.inRange a := by simpa [inRange] using hbits
    have hsubnet : c.inSubnet a := inSubnet_of_inRange h hrange
    refine ⟨hrange, hsubnet, by rwa [AddressPool.inSubnet_ofV4], ?_⟩
    rintro rfl
    exact hgateway hrange
  · intro ip hip
    have hcontains := hpool.contains_of_inDynamicRange rfl hip
    exact ⟨hcontains, AddressPool.checkStatic_eq_ok_iff.2
      ⟨(AddressPool.inDynamicRange_iff.1 hip).1, AddressPool.ofV4_inSubnet_of_contains h hcontains⟩⟩

end V4Config

/-! ## IPv6 -/

/-- How an IPv6 range, its subnet and its pool fit together. -/
structure V6Config.Coherent (c : V6Config) : Prop where
  /-- The window ends at the address whose last byte is all ones. -/
  window : ∀ {ip}, ip ∈ (AddressPool.ofV6 c).window ↔
    ∃ a, ip = .v6 a ∧ c.rangeStart.bits ≤ a.bits ∧
      a.bits ≤ c.rangeStart.bits.extractLsb' 8 120 ++ 0xff#8
  size : (AddressPool.ofV6 c).size.toNat = (AddressPool.ofV6 c).window.ncard
  bounds : 1 ≤ (AddressPool.ofV6 c).window.ncard ∧ (AddressPool.ofV6 c).window.ncard ≤ 256
  /-- All of the window has the first 64 bits of its first address. -/
  inside : ∀ {a}, .v6 a ∈ (AddressPool.ofV6 c).window →
    a.bits.extractLsb' 64 64 = c.rangeStart.bits.extractLsb' 64 64 ∧
      (AddressPool.ofV6 c).inSubnet (.v6 a)
  allowed : ∀ {ip}, (AddressPool.ofV6 c).stateful → (AddressPool.ofV6 c).inDynamicRange ip →
    (AddressPool.ofV6 c).contains ip ∧ (AddressPool.ofV6 c).checkStatic ip = .ok ()

namespace V6Config

variable {c : V6Config}

/-- Setting the bits of the last byte replaces that byte. -/
lemma or_byte (b : BitVec 128) : b ||| 0xff = b.extractLsb' 8 120 ++ 0xff#8 := by
  have hones : 0xff#128 = (BitVec.allOnes 8).setWidth 128 := rfl
  apply BitVec.eq_of_getLsbD_eq
  intro i hi
  have hbyte : (0xff#128).getLsbD i = decide (i < 8) := by
    rw [hones, BitVec.getLsbD_setWidth, BitVec.getLsbD_allOnes, decide_eq_true hi, Bool.true_and]
  have hbyte' : (0xff#8).getLsbD i = decide (i < 8) := BitVec.getLsbD_allOnes
  rw [BitVec.getLsbD_or, BitVec.getLsbD_append, BitVec.getLsbD_extractLsb', hbyte']
  by_cases hlow : i < 8
  · simp [hlow, hbyte]
  · have hbits : i - 8 < 120 := by omega
    have hback : 8 + (i - 8) = i := by omega
    simp [hlow, hbyte, hbits, hback]

lemma mem_window_iff {ip : IpAddr} : ip ∈ (AddressPool.ofV6 c).window ↔
    ∃ a, ip = .v6 a ∧ c.rangeStart.bits ≤ a.bits ∧
      a.bits ≤ c.rangeStart.bits.extractLsb' 8 120 ++ 0xff#8 := by
  rw [← or_byte]
  cases ip <;>
    simp [AddressPool.window, AddressPool.ofV6, IpAddr.family, IpAddr.number, BitVec.le_def]

/-- The window has an address, and no more than a byte can tell apart. -/
lemma span_bounds (c : V6Config) :
    (AddressPool.ofV6 c).first ≤ (AddressPool.ofV6 c).last ∧
      (AddressPool.ofV6 c).last < (AddressPool.ofV6 c).first + 256 := by
  have hdiv : (c.rangeStart.bits.toNat ||| 0xff) / 2 ^ 8 = c.rangeStart.bits.toNat / 2 ^ 8 := by
    rw [Nat.or_div_two_pow]
    simp
  have hle : c.rangeStart.bits.toNat ≤ c.rangeStart.bits.toNat ||| 0xff := Nat.left_le_or
  refine ⟨hle, ?_⟩
  change c.rangeStart.bits.toNat ||| 0xff < c.rangeStart.bits.toNat + 256
  omega

/-- The first 64 bits are equal where the subnet is the same. -/
lemma extractLsb'_eq_iff_div {b b' : BitVec 128} : b.extractLsb' 64 64 = b'.extractLsb' 64 64 ↔
    b.toNat / 2 ^ 64 = b'.toNat / 2 ^ 64 := by
  have hlt : ∀ x : BitVec 128, x.toNat / 2 ^ 64 < 2 ^ 64 := by
    intro x
    have := x.isLt
    omega
  rw [← BitVec.toNat_inj, BitVec.extractLsb'_toNat, BitVec.extractLsb'_toNat,
    Nat.shiftRight_eq_div_pow, Nat.shiftRight_eq_div_pow, Nat.mod_eq_of_lt (hlt b),
    Nat.mod_eq_of_lt (hlt b')]

/-- Every IPv6 range fits together with its subnet and its pool. -/
lemma coherent (c : V6Config) : c.Coherent := by
  have hpool : (AddressPool.ofV6 c).OfConfig := .v6 c
  obtain ⟨hle, hlt⟩ := span_bounds c
  have hlast : (AddressPool.ofV6 c).last < 2 ^ 128 := hpool.last_lt
  have hspan : 1 ≤ (AddressPool.ofV6 c).span ∧ (AddressPool.ofV6 c).span ≤ 256 := by
    unfold AddressPool.span
    omega
  refine ⟨mem_window_iff, ?_, ?_, ?_, ?_⟩
  · rw [hpool.ncard_window]
    exact AddressPool.toNat_size hle (by omega) hlast
  · rwa [hpool.ncard_window]
  · rintro a ⟨-, hrange⟩
    have hdiv := AddressPool.div_of_window_ofV6 hrange.1 hrange.2
    exact ⟨extractLsb'_eq_iff_div.2 hdiv, (AddressPool.inSubnet_ofV6 c a).2 hdiv⟩
  · intro ip hstateful hip
    have hcontains := hpool.contains_of_inDynamicRange hstateful hip
    exact ⟨hcontains, AddressPool.checkStatic_eq_ok_iff.2
      ⟨(AddressPool.inDynamicRange_iff.1 hip).1, AddressPool.ofV6_inSubnet_of_contains hcontains⟩⟩

end V6Config

/-! ## Configurations -/

/-- In a checked configuration that is in use every IPv4 range fits together with its subnet and its
pool, and every IPv6 range does so without any check. -/
theorem Config.pools_coherent :
    (∀ {c : Config} {name : String} {i : InterfaceConfig} {v4 : V4Config}, c.enabled = true →
      c.validate = .ok () → c.interfaces.get? name = some i → i.enabledV4 = some v4 →
        v4.Coherent) ∧
      ∀ v6 : V6Config, v6.Coherent := by
  constructor
  · intro c name i v4 hon hvalid hi hv4
    exact V4Config.coherent_of_validate
      (InterfaceConfig.validate_v4 (Config.validate_interface hon hvalid hi) hv4)
  · exact V6Config.coherent

/-- The pool of the default range has the 101 addresses from 192.168.1.100 to 192.168.1.200. -/
theorem Config.exists_pool_coherent :
    (Config.default.enabled = true ∧ Config.default.validate = .ok () ∧
      Config.default.interfaces.get? "eth0" = some ⟨some .default, some .default⟩) ∧
        V4Config.default.Coherent ∧ (AddressPool.ofV4 .default).window.ncard = 101 := by
  have hvalid : Config.default.validate = .ok () := by decide
  have heth0 : Config.default.interfaces.get? "eth0" = some ⟨some .default, some .default⟩ := by
    decide
  have hcoherent : V4Config.default.Coherent := pools_coherent.1 rfl hvalid heth0 rfl
  refine ⟨⟨rfl, hvalid, heth0⟩, hcoherent, ?_⟩
  rw [← hcoherent.size]
  rfl

end DhcpLeasing
