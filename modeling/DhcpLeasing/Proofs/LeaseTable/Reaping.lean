import DhcpLeasing.Proofs.LeaseTable.Exchange
import DhcpLeasing.Proofs.Time.Timestamp

/-!
# Reaping a lease table

What is left of a table when the leases that have expired are gone:

* `Lease.Lapsed` says when a lease has expired, and `Lease.lapsed_max` that what has expired by the
  later of two times are the leases that have expired by one of them;
* `WellFormed.leases_reapExpired`: all other leases stay, in their order;
* `WellFormed.accepts_of_lookups`: a lease is accepted if a look for each of its keys finds none,
  which is what `WellFormed.lookups_reapExpired` says of the keys that reaping has set free;
* `WellFormed.reapExpired_reapExpired`: reaping twice is reaping at the later time.
-/

namespace DhcpLeasing

open Text

namespace Lease

variable {l : Lease} {time : Timestamp}

/-- Whether a lease has expired at a time: it is a dynamic one, and its expiry is not later. -/
def Lapsed (time : Timestamp) (l : Lease) : Prop :=
  l.isStatic = false ∧ ∃ e, l.expiresAt = some e ∧ e ≤ time

lemma isExpiredAt_iff : l.isExpiredAt time ↔ l.Lapsed time := by
  unfold isExpiredAt Lapsed
  cases l.expiresAt <;> simp

instance (time : Timestamp) (l : Lease) : Decidable (l.Lapsed time) :=
  decidable_of_iff _ isExpiredAt_iff

lemma isExpiredAt_eq_decide (time : Timestamp) (l : Lease) :
    l.isExpiredAt time = decide (l.Lapsed time) := by
  rw [Bool.eq_iff_iff, decide_eq_true_eq, isExpiredAt_iff]

/-- By the later of two times have expired the leases that have by one of them. -/
lemma lapsed_max (t₁ t₂ : Timestamp) (l : Lease) :
    l.Lapsed (max t₁ t₂) ↔ l.Lapsed t₁ ∨ l.Lapsed t₂ := by
  unfold Lapsed
  simp only [le_max_iff]
  grind

end Lease

namespace LeaseTable

variable {t : LeaseTable} {l m : Lease} {time : Timestamp}

/-! ## What is left -/

/-- Given are the leases that have expired, in the order in which they were. -/
lemma removed_reapExpired (t : LeaseTable) (time : Timestamp) :
    (t.reapExpired time).1 = t.leases.filter (·.Lapsed time) := by
  rw [reapExpired]
  simp only [Lease.isExpiredAt_eq_decide]

/-- What is left are the leases that have not expired, in the order in which they were. -/
lemma WellFormed.leases_reapExpired (h : t.WellFormed) (time : Timestamp) :
    (t.reapExpired time).2.leases = t.leases.filter (¬ ·.Lapsed time) := by
  apply SortedMap.values_eq_filter
  intro ip
  show (t.reapExpired time).2.lookup ip = (t.lookup ip).filter _
  rw [h.lookup_reapExpired]
  simp only [Lease.isExpiredAt_eq_decide, decide_not]

lemma WellFormed.reapExpired (h : t.WellFormed) (time : Timestamp) :
    (t.reapExpired time).2.WellFormed :=
  h.change (.reap time)

lemma reserved_reapExpired (t : LeaseTable) (time : Timestamp) :
    (t.reapExpired time).2.reserved = t.reserved :=
  reserved_change t (.reap time)

/-! ## Keys that are free -/

/-- A look for each of the keys of a lease finds none where no lease shares a key with it. -/
lemma WellFormed.lookups_eq_none_iff (h : t.WellFormed) (m : Lease) :
    (t.lookup m.ip = none ∧ t.lookupByHw m.hwAddr = none ∧
        t.lookupByHostname m.hostname = none) ↔ ∀ x ∈ t.leases, ¬ m.SharesKey x := by
  simp only [Option.eq_none_iff_forall_ne_some, ne_eq, h.lookupByHw_eq_some_iff, h.mem_leases_iff]
  constructor
  · rintro ⟨hip, hhw, hhost⟩ x hx (heq | heq | ⟨hm, hname, heq⟩)
    · exact hip x (heq ▸ hx)
    · exact hhw x ⟨hx, heq.symm⟩
    · exact hhost x ((h.lookupByHostname_eq_some_iff hm).2 ⟨hx, hname, heq.symm⟩)
  · intro hfree
    refine ⟨?_, ?_, ?_⟩
    · intro x hx
      have hip := h.ip_eq hx
      exact hfree x (hip ▸ hx) (.inl hip.symm)
    · rintro x ⟨hx, heq⟩
      exact hfree x hx (.inr (.inl heq.symm))
    · intro x hx
      by_cases hm : m.hostname = ""
      · -- no lease is found by the hostname that it does not have
        simp [lookupByHostname, hm] at hx
      · obtain ⟨hx, hname, heq⟩ := (h.lookupByHostname_eq_some_iff hm).1 hx
        exact hfree x hx (.inr (.inr ⟨hm, hname, heq.symm⟩))

/-- A lease none of whose keys is found is accepted, however it is offered. -/
lemma WellFormed.accepts_of_lookups (h : t.WellFormed) (hfamily : m.ip.family = t.family)
    (hkeys : t.lookup m.ip = none ∧ t.lookupByHw m.hwAddr = none ∧
      t.lookupByHostname m.hostname = none) :
    (t.insert m).1 = .ok m ∧ (t.commit m).1 = .ok m := by
  obtain ⟨hfree, hadmits⟩ := h.free_iff_leases.2 ((h.lookups_eq_none_iff m).1 hkeys)
  rw [insert_of_admits h hfamily hfree hadmits, commit_of_admits h hfamily hadmits]
  exact ⟨rfl, rfl⟩

/-- None of the keys of a lease that has expired is found any more. -/
lemma WellFormed.lookups_reapExpired (h : t.WellFormed) (hl : l ∈ t.leases)
    (hlapsed : l.Lapsed time) :
    (t.reapExpired time).2.lookup l.ip = none ∧
      (t.reapExpired time).2.lookupByHw l.hwAddr = none ∧
        (t.reapExpired time).2.lookupByHostname l.hostname = none := by
  rw [(h.reapExpired time).lookups_eq_none_iff, h.leases_reapExpired]
  intro x hx hshare
  obtain ⟨hx, hleft⟩ := List.mem_filter.1 hx
  -- no other lease had a key in common with it
  have heq := h.eq_of_sharesKey (h.mem_leases_iff.1 hl) (h.mem_leases_iff.1 hx) hshare
  have hlookup := h.mem_leases_iff.1 hx
  rw [← heq, h.mem_leases_iff.1 hl, Option.some.injEq] at hlookup
  rw [← hlookup] at hleft
  exact of_decide_eq_true hleft hlapsed

/-! ## Reaping twice -/

/-- Reaping twice, in any order, leaves what reaping at the later time leaves. -/
lemma WellFormed.reapExpired_reapExpired (h : t.WellFormed) (t₁ t₂ : Timestamp) :
    ((t.reapExpired t₁).2.reapExpired t₂).2 = (t.reapExpired (max t₁ t₂)).2 := by
  refine ((h.reapExpired t₁).reapExpired t₂).ext (h.reapExpired _) (by simp)
    (by simp only [reserved_reapExpired]) ?_
  intro ip
  rw [(h.reapExpired t₁).lookup_reapExpired, h.lookup_reapExpired, h.lookup_reapExpired,
    Option.filter_filter]
  congr 1
  funext l
  simp [Lease.isExpiredAt_eq_decide, Lease.lapsed_max]

end LeaseTable

end DhcpLeasing
