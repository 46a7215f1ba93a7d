import DhcpLeasing.Proofs.AddressPool
import Mathlib.Data.List.Nodup
import Mathlib.Data.List.Range

/-!
# The candidates of a pool

A pool searches its window anew for every candidate. Seen as a list, the window shows what the
searches find, one after another:

* `AddressPool.addresses` lists the addresses that the pool chooses from, in ascending order;
* `AddressPool.nextCandidate_eq_find?`: the candidate is the first of the list that is not taken;
* `AddressPool.drawing_eq`: draws go through the list, passing over what is taken, and find none
  once it is used up;
* `AddressPool.draws_ascending` puts together what candidates and draws are, for every pool that a
  configuration describes, whether the configuration has been checked or not.
-/

namespace DhcpLeasing.AddressPool

variable {p : AddressPool} {ip : IpAddr} {taken : IpAddr → Bool}

/-! ## The addresses to choose from -/

/-- The addresses of the window that somebody may hold, in ascending order. -/
def addresses (p : AddressPool) : List IpAddr :=
  ((List.range' p.first p.span).map (.ofNumber p.family)).filter (!p.isKept ·)

lemma leastFree_eq_find? (free : ℕ → Bool) (n count : ℕ) :
    leastFree free n count = (List.range' n count).find? free := by
  induction count generalizing n with
  | zero => rfl
  | succ count ih =>
    rw [leastFree, List.range'_succ, List.find?_cons, ih]
    cases free n <;> rfl

/-- The candidate is the first address of the list that is not taken. -/
lemma nextCandidate_eq_find? (h : p.stateful) (taken : IpAddr → Bool) :
    p.nextCandidate taken = p.addresses.find? (!taken ·) := by
  simp only [nextCandidate, h, if_true, leastFree_eq_find?]
  rw [addresses, List.find?_filter, List.find?_map]
  simp

lemma nextCandidate_of_not_stateful (h : p.stateful = false) (taken : IpAddr → Bool) :
    p.nextCandidate taken = none := by
  simp [nextCandidate, h]

namespace OfConfig

/-- The list has all addresses that the pool chooses from, and no others. -/
lemma mem_addresses_iff (h : p.OfConfig) : ip ∈ p.addresses ↔ p.inDynamicRange ip := by
  simp only [addresses, List.mem_filter, List.mem_map, List.mem_range'_1, Bool.not_eq_true',
    inDynamicRange_iff]
  constructor
  · intro hmem
    obtain ⟨⟨n, ⟨hfirst, hlast⟩, rfl⟩, hkept⟩ := hmem
    have hle : n ≤ p.last := by
      unfold span at hlast
      omega
    have hn := h.number_ofNumber hle
    exact ⟨by simp, by omega, hkept⟩
  · intro hrange
    obtain ⟨hfamily, ⟨hfirst, hlast⟩, hkept⟩ := hrange
    have hlt : ip.number < p.first + p.span := by
      unfold span
      omega
    exact ⟨⟨ip.number, ⟨hfirst, hlt⟩, by rw [← hfamily, IpAddr.ofNumber_number]⟩, hkept⟩

lemma addresses_ascending (h : p.OfConfig) :
    p.addresses.Pairwise fun a b => a.number < b.number := by
  apply List.Pairwise.filter
  rw [List.pairwise_map]
  refine List.Pairwise.imp_of_mem ?_ List.pairwise_lt_range'
  intro m n hm hn hlt
  -- the numbers of the window are those of its addresses
  have hle : ∀ {k}, k ∈ List.range' p.first p.span → k ≤ p.last := by
    intro k hk
    rw [List.mem_range'_1] at hk
    unfold span at hk
    omega
  rwa [h.number_ofNumber (hle hm), h.number_ofNumber (hle hn)]

lemma addresses_nodup (h : p.OfConfig) : p.addresses.Nodup := by
  apply h.addresses_ascending.imp
  intro a b hlt heq
  rw [heq] at hlt
  exact lt_irrefl _ hlt

/-- There is no candidate iff every address to choose from is taken. -/
lemma nextCandidate_eq_none_iff (h : p.OfConfig) (hstateful : p.stateful) :
    p.nextCandidate taken = none ↔ ∀ ip, p.inDynamicRange ip → taken ip := by
  rw [nextCandidate_eq_find? hstateful, List.find?_eq_none]
  simp only [h.mem_addresses_iff, Bool.not_eq_true', Bool.not_eq_false]

end OfConfig

/-! ## Draws -/

/-- The candidates for so many successive draws when some addresses are taken to begin with, each
candidate being taken from its draw on. Nothing is drawn after a draw that finds none. -/
def drawing (p : AddressPool) (taken : IpAddr → Bool) : (draws : ℕ) → List (Option IpAddr)
  | 0 => []
  | draws + 1 =>
    match p.nextCandidate taken with
    | none => [none]
    | some ip => some ip :: p.drawing (fun other => other == ip || taken other) draws

lemma draw_eq_drawing (p : AddressPool) (taken : List IpAddr) (draws : ℕ) :
    p.draw taken draws = p.drawing taken.contains draws := by
  induction draws generalizing taken with
  | zero => rfl
  | succ draws ih =>
    have hmore : ∀ ip, (ip :: taken).contains =
        fun other => other == ip || taken.contains other := by
      intro ip
      funext other
      exact List.contains_cons
    rw [draw, drawing]
    cases p.nextCandidate taken.contains with
    | none => rfl
    | some ip =>
      show some ip :: p.draw (ip :: taken) draws = _
      rw [ih, hmore]

/-- What is free once the first free address is taken, too. -/
lemma filter_of_first {l more : List IpAddr} (h : l.Nodup)
    (hfree : l.filter (!taken ·) = ip :: more) :
    l.filter (fun other => !(other == ip || taken other)) = more := by
  have hnodup : (ip :: more).Nodup := hfree ▸ h.filter _
  calc l.filter (fun other => !(other == ip || taken other))
      = (l.filter (!taken ·)).filter (· != ip) := by
        rw [List.filter_filter]
        apply List.filter_congr
        intro other _
        rw [Bool.not_or]
        rfl
    _ = (ip :: more).erase ip := by rw [hfree, hnodup.erase_eq_filter]
    _ = more := List.erase_cons_head ip more

/-- Draws bring the free addresses one after another, and then nothing. -/
lemma drawing_eq (hstateful : p.stateful) (h : p.addresses.Nodup) (taken : IpAddr → Bool)
    (draws : ℕ) :
    p.drawing taken draws = ((p.addresses.filter (!taken ·)).take draws).map some ++
      if (p.addresses.filter (!taken ·)).length < draws then [none] else [] := by
  -- by induction on the draws, the first of which takes the first free address
  induction draws generalizing taken with
  | zero => simp [drawing]
  | succ draws ih =>
    rw [drawing, nextCandidate_eq_find? hstateful, ← List.head?_filter]
    cases hfree : p.addresses.filter (!taken ·) with
    | nil => simp
    | cons ip more =>
      show some ip :: p.drawing (fun other => other == ip || taken other) draws = _
      rw [ih, filter_of_first h hfree, List.take_succ_cons, List.map_cons, List.length_cons]
      simp

/-- **Candidates ascend.** Whatever is taken, the candidate of a pool that assigns addresses is the
lowest address of its range that is free, and there is none iff all of the range is taken. So draws
bring every free address exactly once, from the lowest to the highest, and then nothing. A pool that
does not assign addresses has no candidate. -/
theorem draws_ascending (h : p.OfConfig) :
    (∀ taken : IpAddr → Bool, p.stateful →
      (∀ ip, p.nextCandidate taken = some ip ↔ p.inDynamicRange ip ∧ taken ip = false ∧
        ∀ lower, p.inDynamicRange lower → lower.number < ip.number → taken lower) ∧
      (p.nextCandidate taken = none ↔ ∀ ip, p.inDynamicRange ip → taken ip) ∧
      ∃ free : List IpAddr, (free.Pairwise fun a b => a.number < b.number) ∧
        (∀ ip, ip ∈ free ↔ p.inDynamicRange ip ∧ taken ip = false) ∧
        ∀ draws, p.drawing taken draws =
          (free.take draws).map some ++ if free.length < draws then [none] else []) ∧
    (∀ (taken : List IpAddr) (draws : ℕ), p.draw taken draws = p.drawing taken.contains draws) ∧
    (p.stateful = false → ∀ taken, p.nextCandidate taken = none) := by
  refine ⟨?_, p.draw_eq_drawing, nextCandidate_of_not_stateful⟩
  intro taken hstateful
  refine ⟨?_, h.nextCandidate_eq_none_iff hstateful, p.addresses.filter (!taken ·),
    h.addresses_ascending.filter _, ?_, drawing_eq hstateful h.addresses_nodup taken⟩
  · intro ip
    rw [h.nextCandidate_eq_some_iff]
    exact and_iff_right hstateful
  · intro ip
    rw [List.mem_filter, h.mem_addresses_iff, Bool.not_eq_true']

/-- A window of a gateway, its network and its broadcast address has room for one client. A window
that ends with the last address there is offers that one, too. -/
theorem exists_draws_ascending :
    let p := ofV4 ⟨.ofBytes 10 0 0 1, .ofBytes 255 255 255 252, .ofBytes 10 0 0 0,
      .ofBytes 10 0 0 3, 60, true⟩
    let p' := ofV6 ⟨⟨.allOnes 128 - 1⟩, 60, false, false, true⟩
    (p.OfConfig ∧ p.stateful ∧ p.draw [] 3 = [some (.v4 (.ofBytes 10 0 0 2)), none] ∧
      ∀ ip, p.inDynamicRange ip → ip = .v4 (.ofBytes 10 0 0 2)) ∧
    (p'.OfConfig ∧ p'.stateful ∧ p'.drawing (fun _ => false) 3 =
      [some (.v6 ⟨.allOnes 128 - 1⟩), some (.v6 ⟨.allOnes 128⟩), none]) := by
  intro p p'
  have hp : p.OfConfig := .v4 _
  have hp' : p'.OfConfig := .v6 _
  refine ⟨⟨hp, rfl, by decide +kernel, ?_⟩, hp', rfl, ?_⟩
  · intro ip hip
    have hnone : p.nextCandidate (· == .v4 (.ofBytes 10 0 0 2)) = none := by decide +kernel
    simpa using ((draws_ascending hp).1 _ rfl).2.1.1 hnone ip hip
  · have hlist : p'.draw [] 3 = p'.drawing (fun _ => false) 3 := (draws_ascending hp').2.1 [] 3
    rw [← hlist]
    decide +kernel

end DhcpLeasing.AddressPool
