import DhcpLeasing.Address.Spelling
import DhcpLeasing.Proofs.Text.Digits
import DhcpLeasing.Proofs.Text.Parts

/-!
# Addresses survive being written

An address of either family is read from its text as it was: `IpAddr.ofText?_toText`.
-/

namespace DhcpLeasing

open Text

lemma guard_of {p : Prop} [Decidable p] (h : p) : (guard p : Option Unit) = some () :=
  if_pos h

/-! ## IPv4 -/

namespace Ipv4

variable {a : Ipv4} {n : ℕ} {cs : List Char}

lemma bytes_lt (a : Ipv4) : ∀ n ∈ a.bytes, n < 0x100 := by
  have hbits := a.bits.isLt
  intro n hn
  simp only [bytes, List.mem_cons, List.not_mem_nil, or_false] at hn
  rcases hn with rfl | rfl | rfl | rfl <;> omega

lemma readByte_decimal (h : n < 0x100) : readByte (decimal n) = some n := by
  have hne := decimal_ne_nil n
  have hlength : (decimal n).length ≤ 3 := (length_decimal_le_iff (by decide)).2 (by omega)
  have hdigits : (decimal n).all Char.isDigit :=
    List.all_eq_true.2 fun _ => isDigit_of_mem_decimal
  have hzero : ¬ ((decimal n).head? = some '0' ∧ (decimal n).length ≠ 1) := by
    intro hhead
    rw [eq_zero_of_head?_decimal hhead.1] at hhead
    exact hhead.2 rfl
  have hform : ((decimal n).isEmpty || 3 < (decimal n).length || !(decimal n).all Char.isDigit) =
      false := by
    simpa [hdigits, hne] using hlength
  simp only [readByte, hform, hzero, ofDecimal_decimal, h, if_true, if_false]
  rfl

/-- The dots stand between the bytes. -/
lemma dot_notMem_decimal (n : ℕ) : '.' ∉ decimal n := by
  intro hmem
  exact absurd (isDigit_of_mem_decimal hmem) (by decide)

lemma read_render (a : Ipv4) : read a.render = some a := by
  have hread : ((['.'].intercalate (a.bytes.map decimal)).splitOn '.').mapM readByte =
      some a.bytes := by
    refine mapM_splitOn_intercalate (by simp [bytes]) (fun n _ => dot_notMem_decimal n) ?_
    intro n hn
    exact readByte_decimal (a.bytes_lt n hn)
  have hbits := a.bits.isLt
  rw [read, render, hread]
  simp only [bytes]
  congr 2
  apply BitVec.eq_of_toNat_eq
  rw [BitVec.toNat_ofNat]
  omega

lemma isDigit_of_readByte {digits : List Char} (h : (readByte digits).isSome) {c : Char}
    (hc : c ∈ digits) : c.isDigit := by
  unfold readByte at h
  split at h
  · cases h
  · next hform =>
    simp only [Bool.or_eq_true, not_or, Bool.not_eq_true', Bool.not_eq_false] at hform
    exact List.all_eq_true.1 hform.2 c hc

lemma length_render (a : Ipv4) : 4 < a.render.length := by
  have hpos : ∀ n, 0 < (decimal n).length := fun n => Nat.length_toDigits_pos
  have h₁ := hpos (a.bits.toNat / 0x1000000)
  simp only [render, bytes, List.map_cons, List.map_nil, List.intercalate_cons_cons,
    List.intercalate_singleton, List.length_append, List.length_singleton]
  have h₂ := hpos (a.bits.toNat / 0x10000 % 0x100)
  omega

/-- What is read as an address consists of digits and dots. -/
lemma mem_of_read (h : read cs = some a) {c : Char} (hc : c ∈ cs) : c = '.' ∨ c.isDigit := by
  have hparts : ∃ bytes, (cs.splitOn '.').mapM readByte = some bytes := by
    unfold read at h
    split at h
    · next heq => exact ⟨_, heq⟩
    · cases h
  obtain ⟨bytes, hbytes⟩ := hparts
  have hwhole : ['.'].intercalate (cs.splitOn '.') = cs := List.intercalate_splitOn '.'
  rw [← hwhole] at hc
  obtain rfl | ⟨part, hpart, hc⟩ := mem_intercalate hc
  · exact .inl rfl
  · exact .inr (isDigit_of_readByte (isSome_of_mapM_eq_some hbytes part hpart) hc)

lemma ofText?_toText (a : Ipv4) : ofText? a.toText = some a := by
  rw [ofText?, toText, String.toList_ofList, a.read_render]

end Ipv4

/-! ## IPv6 -/

namespace Ipv6

variable {a : Ipv6} {g : ℕ} {gs : List ℕ}

/-! ### Groups -/

lemma groups_lt (a : Ipv6) : ∀ g ∈ a.groups, g < 0x10000 := by
  intro g hg
  obtain ⟨i, -, rfl⟩ := List.mem_map.1 hg
  exact Nat.mod_lt _ (by decide)

lemma length_groups (a : Ipv6) : a.groups.length = 8 := by
  simp [groups]

/-- The groups of an address make it up. -/
lemma ofGroups_groups (a : Ipv6) : ofGroups a.groups = a := by
  have hbits := a.bits.isLt
  have hrange : List.range 8 = [0, 1, 2, 3, 4, 5, 6, 7] := rfl
  apply congrArg Ipv6.mk
  apply BitVec.eq_of_toNat_eq
  simp only [groups, hrange, List.map_cons, List.map_nil, List.foldl_cons, List.foldl_nil,
    Nat.shiftRight_eq_div_pow, BitVec.toNat_ofNat]
  generalize a.bits.toNat = n at *
  norm_num at *
  omega

/-! ### Zeros left out -/

lemma take_zerosAhead {n : ℕ} (h : n ≤ zerosAhead gs) :
    gs.take n = List.replicate n 0 ∧ n ≤ gs.length := by
  have hlength : (gs.takeWhile (· = 0)).length ≤ gs.length :=
    (List.takeWhile_sublist _).length_le
  have hzeros : gs.takeWhile (· = 0) = List.replicate (zerosAhead gs) 0 := by
    rw [List.eq_replicate_iff]
    refine ⟨rfl, ?_⟩
    intro g hg
    simpa using List.all_eq_true.1 List.all_takeWhile g hg
  refine ⟨?_, h.trans hlength⟩
  rw [← List.takeWhile_append_dropWhile (p := (· = 0)) (l := gs), hzeros,
    List.take_append_of_le_length (by simpa using h), List.take_replicate, min_eq_left h]

/-- The run of zeros that is left out is one. -/
lemma longestZeros_le (gs : List ℕ) :
    (longestZeros gs).2 ≤ zerosAhead (gs.drop (longestZeros gs).1) := by
  unfold longestZeros
  refine List.foldlRecOn (motive := fun best : ℕ × ℕ => best.2 ≤ zerosAhead (gs.drop best.1)) _ _
    (Nat.zero_le _) ?_
  intro best hbest i _
  simp only
  split
  · exact le_rfl
  · exact hbest

/-- What is written on both sides of the gap, with zeros for what is left out, are all groups. -/
lemma groups_around_gap (gs : List ℕ) :
    gs.take (longestZeros gs).1 ++ List.replicate (longestZeros gs).2 0 ++
      gs.drop ((longestZeros gs).1 + (longestZeros gs).2) = gs := by
  obtain ⟨hzeros, -⟩ := take_zerosAhead (longestZeros_le gs)
  rw [← hzeros, ← List.drop_drop, List.append_assoc, List.take_append_drop, List.take_append_drop]

/-! ### Groups in text -/

lemma readGroup_toDigits (h : g < 0x10000) : readGroup (Nat.toDigits 16 g) = some g := by
  have hpos : 0 < (Nat.toDigits 16 g).length := Nat.length_toDigits_pos
  have hlength : (Nat.toDigits 16 g).length ≤ 4 :=
    (Nat.length_toDigits_le_iff (by decide) (by decide)).2 (by omega)
  have hform : ((Nat.toDigits 16 g).isEmpty || 4 < (Nat.toDigits 16 g).length) = false := by
    simp [List.ne_nil_of_length_pos hpos, hlength]
  rw [readGroup, hform, ofHex?_toDigits]
  rfl

lemma colon_notMem_toDigits (g : ℕ) : ':' ∉ Nat.toDigits 16 g := by
  intro hmem
  exact (isHexDigit_of_mem_toDigits hmem).ne.1 rfl

lemma readParts_toDigits (dottedEnd : Bool) (h : ∀ g ∈ gs, g < 0x10000) :
    readParts dottedEnd (gs.map (Nat.toDigits 16)) = some gs := by
  induction gs with
  | nil => rfl
  | cons g rest ih =>
    have hg := readGroup_toDigits (h g (by simp))
    cases rest with
    | nil =>
      rw [List.map_singleton, readParts, hg]
    | cons g' rest =>
      have hrest := ih fun g hg => h g (by simp [hg])
      rw [List.map_cons, List.map_cons, readParts, hg, ← List.map_cons, hrest]
      · rfl
      · simp

lemma renderGroups_ne_nil (hne : gs ≠ []) : renderGroups gs ≠ [] := by
  obtain ⟨g, rest, rfl⟩ := List.exists_cons_of_ne_nil hne
  have hpos : 0 < (Nat.toDigits 16 g).length := Nat.length_toDigits_pos
  obtain ⟨d, digits, hdigits⟩ := List.exists_cons_of_length_pos hpos
  apply List.ne_nil_of_mem (a := d)
  exact mem_intercalate_of_mem (List.mem_map.2 ⟨g, by simp, rfl⟩) (by simp [hdigits])

lemma readGroups_renderGroups (dottedEnd : Bool) (h : ∀ g ∈ gs, g < 0x10000) :
    readGroups dottedEnd (renderGroups gs) = some gs := by
  by_cases hne : gs = []
  · subst hne
    rfl
  · have hform : (renderGroups gs).isEmpty = false := by simpa using renderGroups_ne_nil hne
    have hcolon : ∀ digits ∈ gs.map (Nat.toDigits 16), ':' ∉ digits := by
      simpa using fun g _ => colon_notMem_toDigits g
    rw [readGroups, hform, renderGroups, List.splitOn_intercalate ':' hcolon (by simpa using hne)]
    exact readParts_toDigits dottedEnd h

/-! ### The gap -/

lemma splitGap_cons {c : Char} {cs : List Char} (h : c ≠ ':' ∨ cs.head? ≠ some ':') :
    splitGap (c :: cs) = (splitGap cs).map fun r => (c :: r.1, r.2) := by
  rw [splitGap]
  intro rest hc hcs
  rcases h with h | h
  · exact h hc
  · exact h (by rw [hcs]; rfl)

lemma splitGap_append {part : List Char} (hpart : ':' ∉ part) (cs : List Char) :
    splitGap (part ++ cs) = (splitGap cs).map fun r => (part ++ r.1, r.2) := by
  induction part with
  | nil => simp
  | cons c part ih =>
    have hc : c ≠ ':' := by
      intro hc
      exact hpart (by simp [hc])
    rw [List.cons_append, splitGap_cons (.inl hc), ih fun hmem => hpart (by simp [hmem]),
      Option.map_map]
    rfl

lemma renderGroups_cons_cons (g g' : ℕ) (rest : List ℕ) :
    renderGroups (g :: g' :: rest) = Nat.toDigits 16 g ++ ':' :: renderGroups (g' :: rest) := by
  rw [renderGroups, List.map_cons, List.map_cons, List.intercalate_cons_cons, renderGroups,
    List.map_cons, List.append_assoc]
  rfl

lemma head?_renderGroups (g : ℕ) (rest : List ℕ) (cs : List Char) :
    (renderGroups (g :: rest) ++ cs).head? ≠ some ':' := by
  have hpos : 0 < (Nat.toDigits 16 g).length := Nat.length_toDigits_pos
  obtain ⟨d, digits, hdigits⟩ := List.exists_cons_of_length_pos hpos
  have hd : d ≠ ':' := (isHexDigit_of_mem_toDigits (hdigits ▸ List.mem_cons_self)).ne.1
  cases rest with
  | nil => simpa [renderGroups, hdigits] using hd
  | cons g' rest =>
    rw [renderGroups_cons_cons, hdigits]
    simpa using hd

/-- Without a gap there is none to be found. -/
lemma splitGap_renderGroups (gs : List ℕ) : splitGap (renderGroups gs) = none := by
  induction gs with
  | nil => rfl
  | cons g rest ih =>
    cases rest with
    | nil =>
      rw [renderGroups, List.map_singleton, List.intercalate_singleton,
        ← List.append_nil (Nat.toDigits 16 g), splitGap_append (colon_notMem_toDigits g)]
      rfl
    | cons g' rest =>
      have hhead := head?_renderGroups g' rest []
      rw [List.append_nil] at hhead
      rw [renderGroups_cons_cons, splitGap_append (colon_notMem_toDigits g),
        splitGap_cons (.inr hhead), ih]
      rfl

/-- The gap is found where it is. -/
lemma splitGap_gap (gs : List ℕ) (rest : List Char) :
    splitGap (renderGroups gs ++ ':' :: ':' :: rest) = some (renderGroups gs, rest) := by
  induction gs with
  | nil => rfl
  | cons g gs ih =>
    cases gs with
    | nil =>
      rw [renderGroups, List.map_singleton, List.intercalate_singleton,
        splitGap_append (colon_notMem_toDigits g), splitGap]
      simp
    | cons g' gs =>
      rw [renderGroups_cons_cons, List.append_assoc, List.cons_append,
        splitGap_append (colon_notMem_toDigits g),
        splitGap_cons (.inr (head?_renderGroups g' gs _)), ih]
      rfl

/-! ### Addresses -/

/-- Of an address with an IPv4 address at its end that one is written, which makes two groups. -/
lemma readGroups_mapped (inner : Ipv4) :
    readGroups true ("ffff:".toList ++ inner.render) =
      some [0xFFFF, inner.bits.toNat / 0x10000, inner.bits.toNat % 0x10000] := by
  have hdots : ':' ∉ inner.render := by
    intro hmem
    exact absurd (Ipv4.mem_of_read inner.read_render hmem) (by decide)
  have hparts : ("ffff:".toList ++ inner.render).splitOn ':' = ["ffff".toList, inner.render] := by
    have hjoin : "ffff:".toList ++ inner.render =
        [':'].intercalate ["ffff".toList, inner.render] := by
      rw [List.intercalate_cons_cons, List.intercalate_singleton]
      rfl
    rw [hjoin, List.splitOn_intercalate ':' (by simpa using hdots) (by simp)]
  have hlong : readGroup inner.render = none := by
    have hform : (inner.render.isEmpty || 4 < inner.render.length) = true := by
      simp [inner.length_render]
    rw [readGroup, hform]
    rfl
  have hgroup : readGroup "ffff".toList = some 0xFFFF := by decide
  have hform : ("ffff:".toList ++ inner.render).isEmpty = false := by simp
  rw [readGroups, hform, hparts, readParts, readParts, hgroup, hlong, inner.read_render]
  · rfl
  · simp

lemma read_mapped {inner : Ipv4} (h : a.mapped? = some inner) :
    read ("::ffff:".toList ++ inner.render) = some a := by
  have hgap : splitGap ("::ffff:".toList ++ inner.render) =
      some ([], "ffff:".toList ++ inner.render) := rfl
  have hbits := a.bits.isLt
  unfold mapped? at h
  split at h
  · next hmapped =>
    obtain rfl := Option.some.inj h
    rw [read, hgap]
    have hnone : readGroups false [] = some [] := rfl
    simp only [hnone, readGroups_mapped, Option.bind_eq_bind, Option.bind_some]
    rw [guard_of (by simp), Option.bind_some]
    apply congrArg (some ∘ Ipv6.mk)
    apply BitVec.eq_of_toNat_eq
    simp only [List.length_nil, List.length_cons, List.replicate, List.nil_append, List.cons_append,
      List.foldl_cons, List.foldl_nil, BitVec.toNat_setWidth, BitVec.toNat_ofNat]
    omega
  · cases h

lemma read_render (a : Ipv6) : read a.render = some a := by
  have hlt := a.groups_lt
  have hlength := a.length_groups
  obtain ⟨-, hfits⟩ := take_zerosAhead (longestZeros_le a.groups)
  have hall := groups_around_gap a.groups
  unfold render
  split
  · next inner h => exact read_mapped h
  · rcases hz : longestZeros a.groups with ⟨start, length⟩
    rw [hz] at hall hfits
    simp only at hall hfits ⊢
    split
    · next hlong =>
      have hhigh : readGroups false (renderGroups (a.groups.take start)) =
          some (a.groups.take start) :=
        readGroups_renderGroups false fun g hg => hlt g (List.mem_of_mem_take hg)
      have hlow : readGroups true (renderGroups (a.groups.drop (start + length))) =
          some (a.groups.drop (start + length)) :=
        readGroups_renderGroups true fun g hg => hlt g (List.mem_of_mem_drop hg)
      have hgap :=
        splitGap_gap (a.groups.take start) (renderGroups (a.groups.drop (start + length)))
      rw [List.append_assoc, List.cons_append, List.singleton_append, read, hgap]
      have hfewer : (a.groups.take start).length + (a.groups.drop (start + length)).length < 8 := by
        rw [List.length_drop] at hfits
        rw [List.length_take, List.length_drop]
        omega
      have hgone : 8 - (a.groups.take start).length - (a.groups.drop (start + length)).length =
          length := by
        rw [List.length_drop] at hfits
        rw [List.length_take, List.length_drop]
        omega
      simp only [hhigh, hlow, Option.bind_eq_bind, Option.bind_some]
      rw [guard_of hfewer, Option.bind_some, hgone, hall, ofGroups_groups]
      rfl
    · have hread := readGroups_renderGroups true hlt
      rw [read, splitGap_renderGroups]
      simp only [hread, Option.bind_eq_bind, Option.bind_some]
      rw [guard_of hlength, Option.bind_some, ofGroups_groups]
      rfl

/-- There is a colon in every text of an address. -/
lemma colon_mem_render (a : Ipv6) : ':' ∈ a.render := by
  have hlength := a.length_groups
  unfold render
  split
  · simp
  · rcases hz : longestZeros a.groups with ⟨start, length⟩
    simp only
    split
    · simp
    · match hgroups : a.groups with
      | g :: g' :: rest =>
        rw [renderGroups_cons_cons]
        simp
      | [] => simp [hgroups] at hlength
      | [g] => simp [hgroups] at hlength

lemma ofText?_toText (a : Ipv6) : ofText? a.toText = some a := by
  rw [ofText?, toText, String.toList_ofList, a.read_render]

end Ipv6

namespace IpAddr

/-- **An address is read from its text as it was.** -/
theorem ofText?_toText (ip : IpAddr) : ofText? ip.toText = some ip := by
  cases ip with
  | v4 a => rw [toText, ofText?, a.ofText?_toText]
  | v6 a =>
    have hnot : Ipv4.ofText? a.toText = none := by
      rw [Ipv4.ofText?, Ipv6.toText, String.toList_ofList, Option.eq_none_iff_forall_ne_some]
      intro b hb
      exact absurd (Ipv4.mem_of_read hb a.colon_mem_render) (by decide)
    rw [toText, ofText?, hnot, a.ofText?_toText]
    rfl

end IpAddr

end DhcpLeasing
