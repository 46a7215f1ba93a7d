import DhcpLeasing.LeaseTable
import Mathlib.Tactic.Common

/-!
# The indexes of a lease table

What it means that the three indexes of a table say the same, and what follows for looking up:

* `LeaseTable.WellFormed`: every lease is stored under its own address, and the other two indexes
  hold exactly the clients and the hostnames of the stored leases;
* `LeaseTable.WellFormed.ext`: the leases of such a table determine it;
* `WellFormed.enter` and `WellFormed.strike`: the two moves that all changes are made of keep the
  indexes in step, `enter` provided that no key is taken.
-/

namespace DhcpLeasing

open Text

/-- Whether two leases have an address, a client or a hostname in common. Hostnames are compared in
lowercase, and leases without a hostname have none in common. -/
def Lease.SharesKey (a b : Lease) : Prop :=
  a.ip = b.ip ∨ a.hwAddr = b.hwAddr ∨
    a.hostname ≠ "" ∧ b.hostname ≠ "" ∧ lowercase a.hostname = lowercase b.hostname

instance (a b : Lease) : Decidable (a.SharesKey b) :=
  inferInstanceAs (Decidable (_ ∨ _ ∨ _ ∧ _ ∧ _))

namespace LeaseTable

/-! ## Entering and striking -/

section Moves

variable (t : LeaseTable) (l : Lease) (ip : IpAddr)

@[simp] lemma family_enter : (t.enter l).family = t.family := rfl

@[simp] lemma reserved_enter : (t.enter l).reserved = t.reserved := rfl

@[simp] lemma lookup_enter (ip : IpAddr) :
    (t.enter l).lookup ip = if ip = l.ip then some l else t.lookup ip := by
  simp [enter, lookup]

@[simp] lemma byHw_enter (client : HwAddr) :
    (t.enter l).byHw.get? client = if client = l.hwAddr then some l.ip else t.byHw.get? client := by
  simp [enter]

@[simp] lemma byHost_enter (key : String) :
    (t.enter l).byHost.get? key =
      if l.hostname ≠ "" ∧ key = lowercase l.hostname then some l.ip else t.byHost.get? key := by
  by_cases h : l.hostname = "" <;> simp [enter, h]

@[simp] lemma family_strike : (t.strike ip).family = t.family := by
  unfold strike
  split <;> rfl

@[simp] lemma reserved_strike : (t.strike ip).reserved = t.reserved := by
  unfold strike
  split <;> rfl

@[simp] lemma lookup_strike (ip' : IpAddr) :
    (t.strike ip).lookup ip' = if ip' = ip then none else t.lookup ip' := by
  unfold strike
  split
  · next h =>
    split
    · next heq => rw [heq, h]
    · rfl
  · simp [lookup]

variable {t l ip}

lemma strike_of_lookup_none (h : t.lookup ip = none) : t.strike ip = t := by
  simp [strike, h]

lemma byHw_strike (h : t.lookup ip = some l) (client : HwAddr) :
    (t.strike ip).byHw.get? client = if client = l.hwAddr then none else t.byHw.get? client := by
  simp [strike, h]

lemma byHost_strike (h : t.lookup ip = some l) (key : String) :
    (t.strike ip).byHost.get? key =
      if l.hostname ≠ "" ∧ key = lowercase l.hostname then none else t.byHost.get? key := by
  by_cases hl : l.hostname = "" <;> simp [strike, h, hl]

end Moves

/-! ## Indexes in step -/

/-- The indexes of a table agree: they are those of the leases stored in it, each of which is of the
family of the table. -/
structure WellFormed (t : LeaseTable) : Prop where
  ip_eq : ∀ {ip l}, t.lookup ip = some l → l.ip = ip
  family_eq : ∀ {ip l}, t.lookup ip = some l → ip.family = t.family
  byHw_iff : ∀ {client ip},
    t.byHw.get? client = some ip ↔ ∃ l, t.lookup ip = some l ∧ l.hwAddr = client
  byHost_iff : ∀ {key ip},
    t.byHost.get? key = some ip ↔
      ∃ l, t.lookup ip = some l ∧ l.hostname ≠ "" ∧ lowercase l.hostname = key

namespace WellFormed

variable {t t₁ t₂ : LeaseTable} {l m : Lease} {ip : IpAddr}

/-- A table without leases. -/
lemma empty (family : Family) : (LeaseTable.empty family).WellFormed where
  ip_eq h := by simp [LeaseTable.empty, lookup] at h
  family_eq h := by simp [LeaseTable.empty, lookup] at h
  byHw_iff := by simp [LeaseTable.empty, lookup]
  byHost_iff := by simp [LeaseTable.empty, lookup]

/-- Reservations do not matter. -/
lemma withReserved (h : t.WellFormed) (reserved : List IpAddr) :
    { t with reserved }.WellFormed where
  ip_eq := h.ip_eq
  family_eq := h.family_eq
  byHw_iff := h.byHw_iff
  byHost_iff := h.byHost_iff

/-- Stored leases that share a key are the same. -/
lemma eq_of_sharesKey (h : t.WellFormed) {ip₁ ip₂ : IpAddr} (h₁ : t.lookup ip₁ = some l)
    (h₂ : t.lookup ip₂ = some m) (hshare : l.SharesKey m) : ip₁ = ip₂ := by
  -- an index points to one address for a key, where both leases are
  rcases hshare with heq | heq | ⟨hl, hm, heq⟩
  · rw [← h.ip_eq h₁, ← h.ip_eq h₂, heq]
  · have hk₁ := h.byHw_iff.2 ⟨l, h₁, rfl⟩
    have hk₂ := h.byHw_iff.2 ⟨m, h₂, heq.symm⟩
    exact Option.some.inj (hk₁.symm.trans hk₂)
  · have hk₁ := h.byHost_iff.2 ⟨l, h₁, hl, rfl⟩
    have hk₂ := h.byHost_iff.2 ⟨m, h₂, hm, heq.symm⟩
    exact Option.some.inj (hk₁.symm.trans hk₂)

/-- A table is determined by its leases. -/
lemma ext (h₁ : t₁.WellFormed) (h₂ : t₂.WellFormed) (hfamily : t₁.family = t₂.family)
    (hreserved : t₁.reserved = t₂.reserved) (hlookup : ∀ ip, t₁.lookup ip = t₂.lookup ip) :
    t₁ = t₂ := by
  have hip : t₁.byIp = t₂.byIp := SortedMap.ext_get? hlookup
  have hhw : t₁.byHw = t₂.byHw := by
    apply SortedMap.ext_get?
    intro client
    ext ip
    rw [h₁.byHw_iff, h₂.byHw_iff, hlookup]
  have hhost : t₁.byHost = t₂.byHost := by
    apply SortedMap.ext_get?
    intro key
    ext ip
    rw [h₁.byHost_iff, h₂.byHost_iff, hlookup]
  cases t₁
  cases t₂
  simp_all

/-- A lease of whose keys none is taken is for an address that nobody holds. -/
lemma lookup_eq_none_of_free (h : t.WellFormed)
    (hfree : ∀ {ip m}, t.lookup ip = some m → ¬ l.SharesKey m) : t.lookup l.ip = none := by
  apply Option.eq_none_iff_forall_ne_some.2
  intro m hm
  exact hfree hm (.inl (h.ip_eq hm).symm)

/-- Entering a lease of whose keys none is taken. -/
lemma enter (h : t.WellFormed) (hfamily : l.ip.family = t.family)
    (hfree : ∀ {ip m}, t.lookup ip = some m → ¬ l.SharesKey m) : (t.enter l).WellFormed where
  ip_eq {ip m} hm := by
    rw [lookup_enter] at hm
    split at hm
    · next heq => rw [← Option.some.inj hm, heq]
    · exact h.ip_eq hm
  family_eq {ip m} hm := by
    rw [lookup_enter] at hm
    split at hm
    · next heq => rw [heq, hfamily, family_enter]
    · exact h.family_eq hm
  byHw_iff {client ip} := by
    have hl : t.lookup l.ip = none := lookup_eq_none_of_free h hfree
    rw [byHw_enter, lookup_enter]
    split
    · next heq =>
      subst heq
      -- nobody else is listed for the client that comes in
      have hother : ∀ m, t.lookup ip = some m → m.hwAddr ≠ l.hwAddr := by
        intro m hm heq
        exact hfree hm (.inr (.inl heq.symm))
      split <;> grind
    · next hne =>
      rw [h.byHw_iff]
      split <;> grind
  byHost_iff {key ip} := by
    have hl : t.lookup l.ip = none := lookup_eq_none_of_free h hfree
    rw [byHost_enter, lookup_enter]
    split
    · next heq =>
      obtain ⟨hname, rfl⟩ := heq
      have hother : ∀ m, t.lookup ip = some m → m.hostname ≠ "" →
          lowercase m.hostname ≠ lowercase l.hostname := by
        intro m hm hmname heq
        exact hfree hm (.inr (.inr ⟨hname, hmname, heq.symm⟩))
      split <;> grind
    · next hne =>
      rw [h.byHost_iff]
      split <;> grind

/-- Striking the lease for an address. -/
lemma strike (h : t.WellFormed) (ip : IpAddr) : (t.strike ip).WellFormed := by
  cases hl : t.lookup ip with
  | none => rwa [strike_of_lookup_none hl]
  | some l =>
    refine ⟨?_, ?_, ?_, ?_⟩
    · intro ip' m hm
      rw [lookup_strike] at hm
      split at hm
      · simp at hm
      · exact h.ip_eq hm
    · intro ip' m hm
      rw [lookup_strike] at hm
      split at hm
      · simp at hm
      · rw [family_strike, h.family_eq hm]
    · intro client ip'
      -- the entry that goes is the only one for this client
      have honly : ∀ m, t.lookup ip' = some m → m.hwAddr = l.hwAddr → ip' = ip := by
        intro m hm heq
        exact h.eq_of_sharesKey hm hl (.inr (.inl heq))
      rw [byHw_strike hl, lookup_strike]
      split <;> split <;> grind [h.byHw_iff]
    · intro key ip'
      have honly : ∀ m, t.lookup ip' = some m → l.hostname ≠ "" → m.hostname ≠ "" →
          lowercase m.hostname = lowercase l.hostname → ip' = ip := by
        intro m hm hlname hmname heq
        exact h.eq_of_sharesKey hm hl (.inr (.inr ⟨hmname, hlname, heq⟩))
      rw [byHost_strike hl, lookup_strike]
      split <;> split <;> grind [h.byHost_iff]

/-- A lease that has been struck can be entered again. -/
lemma enter_strike (h : t.WellFormed) (hl : t.lookup ip = some l) : (t.strike ip).enter l = t := by
  have hip : l.ip = ip := h.ip_eq hl
  -- what is left shares no key with the lease, since all of its entries are gone
  have hfree : ∀ {ip' m}, (t.strike ip).lookup ip' = some m → ¬ l.SharesKey m := by
    intro ip' m hm hshare
    rw [lookup_strike] at hm
    split at hm
    · simp at hm
    · next hne => exact hne (h.eq_of_sharesKey hl hm hshare).symm
  have hfamily : l.ip.family = (t.strike ip).family := by
    rw [hip, h.family_eq hl, family_strike]
  refine ((h.strike ip).enter hfamily hfree).ext h (by simp) (by simp) ?_
  intro ip'
  rw [lookup_enter, lookup_strike, hip]
  split
  · next heq => rw [heq, hl]
  · rfl

/-! ## Looking up -/

lemma lookupByHw_eq_some_iff (h : t.WellFormed) {client : HwAddr} :
    t.lookupByHw client = some l ↔ t.lookup l.ip = some l ∧ l.hwAddr = client := by
  rw [lookupByHw, Option.bind_eq_some_iff]
  constructor
  · rintro ⟨ip, hip, hl⟩
    obtain ⟨m, hm, rfl⟩ := h.byHw_iff.1 hip
    obtain rfl : m = l := Option.some.inj (hm.symm.trans hl)
    exact ⟨by rwa [h.ip_eq hl], rfl⟩
  · rintro ⟨hl, rfl⟩
    exact ⟨l.ip, h.byHw_iff.2 ⟨l, hl, rfl⟩, hl⟩

lemma lookupByHostname_eq_some_iff (h : t.WellFormed) {hostname : String} (hname : hostname ≠ "") :
    t.lookupByHostname hostname = some l ↔
      t.lookup l.ip = some l ∧ l.hostname ≠ "" ∧ lowercase l.hostname = lowercase hostname := by
  rw [lookupByHostname, if_neg (by simpa using hname), Option.bind_eq_some_iff]
  constructor
  · rintro ⟨ip, hip, hl⟩
    obtain ⟨m, hm, hmname, heq⟩ := h.byHost_iff.1 hip
    obtain rfl : m = l := Option.some.inj (hm.symm.trans hl)
    exact ⟨by rwa [h.ip_eq hl], hmname, heq⟩
  · rintro ⟨hl, hlname, heq⟩
    exact ⟨l.ip, h.byHost_iff.2 ⟨l, hl, hlname, heq⟩, hl⟩

end WellFormed

end LeaseTable

end DhcpLeasing
