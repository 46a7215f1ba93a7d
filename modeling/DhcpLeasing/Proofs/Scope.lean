import DhcpLeasing.Interface.Basic
import DhcpLeasing.Proofs.Hostname
import DhcpLeasing.Proofs.LeaseTable.Reservations

/-!
# Scopes

A scope is sound if every lease in its table fits its pool. A change keeps it sound as long as the
lease that the change may bring fits; which leases are brought is up to those who ask for changes.
-/

namespace DhcpLeasing

/-- Whether a lease fits a pool: what its client, its hostname, its address and its expiry are like.
It says nothing about other leases. -/
structure AddressPool.Fits (p : AddressPool) (l : Lease) : Prop where
  client : l.hwAddr.validateFor p.family = .ok ()
  /-- No hostname is one that the check leaves alone, too. -/
  hostname : Hostname.validate l.hostname = .ok l.hostname
  static : l.isStatic → p.checkStatic l.ip = .ok () ∧ l.expiresAt = none
  dynamic : l.isStatic = false → p.contains l.ip ∧ l.expiresAt.isSome

/-- Whether the lease that a change may bring fits a pool. Renewals bring no new lease. -/
def TableChange.Fits (p : AddressPool) : TableChange → Prop
  | .commit l => p.Fits l
  | .insert l => p.Fits l
  | .edit _ new => p.Fits new
  | .renew .. => True
  | .remove .. => True
  | .reset => True
  | .reap _ => True

lemma AddressPool.Fits.renew {p : AddressPool} {l : Lease} (h : p.Fits l) (now : Timestamp)
    (d : Duration) : p.Fits (l.renew now d) := by
  unfold Lease.renew
  split
  · exact h
  · next hstatic =>
    -- a renewed lease is dynamic, and differs in its expiry only
    have hdynamic : l.isStatic = false := by simpa using hstatic
    refine ⟨h.client, h.hostname, ?_, ?_⟩
    · intro htrue
      exact absurd htrue hstatic
    · intro _
      exact ⟨(h.dynamic hdynamic).1, rfl⟩

namespace Scope

/-- The scope after a change of its table. -/
def change (s : Scope) (c : TableChange) : Scope :=
  { s with table := s.table.change c }

/-- The scope with an address reserved on top of those that are. -/
def hold (s : Scope) (ip : IpAddr) : Scope :=
  { s with table := s.table.hold ip }

/-- The scope with nothing reserved. -/
def unreserved (s : Scope) : Scope :=
  { s with table := s.table.withReserved [] }

section Fields

variable (s : Scope) (c : TableChange) (ip : IpAddr)

@[simp] lemma pool_change : (s.change c).pool = s.pool := rfl

@[simp] lemma leaseDuration_change : (s.change c).leaseDuration = s.leaseDuration := rfl

@[simp] lemma table_change : (s.change c).table = s.table.change c := rfl

@[simp] lemma unreserved_change : (s.change c).unreserved = s.unreserved.change c := by
  simp only [unreserved, change, LeaseTable.change_withReserved]

@[simp] lemma unreserved_hold : (s.hold ip).unreserved = s.unreserved := rfl

@[simp] lemma pool_hold : (s.hold ip).pool = s.pool := rfl

@[simp] lemma table_hold : (s.hold ip).table = s.table.hold ip := rfl

end Fields

/-- A scope whose pool a configuration describes, whose indexes agree and whose leases fit. -/
structure Sound (s : Scope) : Prop where
  pool : s.pool.OfConfig
  family : s.table.family = s.pool.family
  table : s.table.WellFormed
  fits : ∀ {ip l}, s.table.lookup ip = some l → s.pool.Fits l

namespace Sound

variable {s : Scope}

/-- A scope without leases. -/
lemma ofPool {p : AddressPool} (h : p.OfConfig) (d : Duration) : (Scope.ofPool p d).Sound where
  pool := h
  family := rfl
  table := .empty p.family
  fits hl := by simp [Scope.ofPool, LeaseTable.empty, LeaseTable.lookup] at hl

lemma wellFormed_change (h : s.Sound) (c : TableChange) : (s.change c).table.WellFormed :=
  h.table.change c

/-- A change that brings no lease that does not fit. -/
lemma change (h : s.Sound) {c : TableChange} (hc : c.Fits s.pool) : (s.change c).Sound where
  pool := h.pool
  family := (LeaseTable.family_change h.table c).trans h.family
  table := h.wellFormed_change c
  fits {ip l} hl := by
    rcases h.table.lookup_change_of_some hl with hl | hbrings
    · exact h.fits hl
    -- only the changes that have been checked bring a lease, a renewal apart
    cases c with
    | commit m =>
      obtain rfl : l = m := hbrings
      exact hc
    | insert m =>
      obtain rfl : l = m := hbrings
      exact hc
    | renew now client ip' d =>
      obtain ⟨m, hm, -, rfl⟩ := hbrings
      exact (h.fits hm).renew now d
    | edit old m =>
      obtain rfl : l = m := hbrings
      exact hc
    | remove ip' client => exact hbrings.elim
    | reset => exact hbrings.elim
    | reap now => exact hbrings.elim

lemma hold (h : s.Sound) (ip : IpAddr) : (s.hold ip).Sound where
  pool := h.pool
  family := h.family
  table := h.table.withReserved _
  fits := h.fits

/-- The address of a stored dynamic lease is one that dynamic leases may be for. -/
lemma contains_of_lookupByHw (h : s.Sound) {client : HwAddr} {l : Lease}
    (hl : s.table.lookupByHw client = some l) (hdynamic : l.isStatic = false) :
    s.pool.contains l.ip := by
  obtain ⟨hlookup, -⟩ := h.table.lookupByHw_eq_some_iff.1 hl
  have hfits : s.pool.Fits l := h.fits hlookup
  exact (hfits.dynamic hdynamic).1

end Sound

end Scope

end DhcpLeasing
