import DhcpLeasing.Proofs.AddressPool
import DhcpLeasing.Proofs.LeaseTable.Runs

/-!
# Reservations of a lease table

An address can be reserved if it is neither leased nor reserved already, and giving a reservation up
undoes it. Leases are not touched by that, and what happens to them is the same whatever is
reserved.
-/

namespace DhcpLeasing.LeaseTable

variable {t t' : LeaseTable} {l : Lease} {ip : IpAddr}

/-- The table with other reservations. -/
def withReserved (t : LeaseTable) (reserved : List IpAddr) : LeaseTable :=
  { t with reserved }

/-- The table with an address reserved on top of those that are. -/
def hold (t : LeaseTable) (ip : IpAddr) : LeaseTable :=
  t.withReserved (ip :: t.reserved)

lemma release_eq_withReserved (t : LeaseTable) (ip : IpAddr) :
    t.release ip = t.withReserved (t.reserved.erase ip) := rfl

section Fields

variable (t : LeaseTable) (r : List IpAddr) (ip : IpAddr)

@[simp] lemma lookup_withReserved : (t.withReserved r).lookup ip = t.lookup ip := rfl

@[simp] lemma reserved_hold : (t.hold ip).reserved = ip :: t.reserved := rfl

@[simp] lemma reserved_release : (t.release ip).reserved = t.reserved.erase ip := rfl

@[simp] lemma release_hold : (t.hold ip).release ip = t := by
  simp [LeaseTable.hold, withReserved, release]

end Fields

/-! ## Reserving -/

lemma isTaken_eq_false_iff : t.isTaken ip = false ↔ t.lookup ip = none ∧ ip ∉ t.reserved := by
  simp [isTaken, SortedMap.contains, lookup]

lemma reserve_eq_some_iff :
    t.reserve ip = some t' ↔ (t.lookup ip = none ∧ ip ∉ t.reserved) ∧ t' = t.hold ip := by
  rw [← isTaken_eq_false_iff, reserve]
  cases t.isTaken ip <;> simp [LeaseTable.hold, withReserved, eq_comm]

/-- The candidate of a pool is an address of its window, and free. -/
lemma reserveCandidate_eq_some {pool : AddressPool} {excluded : List IpAddr} (hpool : pool.OfConfig)
    (h : t.reserveCandidate pool excluded = some (ip, t')) :
    pool.stateful ∧ pool.inDynamicRange ip ∧ (t.lookup ip = none ∧ ip ∉ t.reserved) ∧
      ip ∉ excluded ∧ t' = t.hold ip := by
  obtain ⟨ip', hcandidate, heq⟩ := Option.map_eq_some_iff.1 h
  obtain ⟨rfl, rfl⟩ := Prod.mk.inj heq
  obtain ⟨hstateful, hrange, hfree, -⟩ := hpool.nextCandidate_eq_some_iff.1 hcandidate
  obtain ⟨htaken, hexcluded⟩ := Bool.or_eq_false_iff.1 hfree
  exact ⟨hstateful, hrange, isTaken_eq_false_iff.1 htaken, by simpa using hexcluded, rfl⟩

/-! ## Changes beside reservations

What comes of a change of the leases does not depend on what is reserved. -/

lemma strike_withReserved (t : LeaseTable) (r : List IpAddr) (ip : IpAddr) :
    (t.withReserved r).strike ip = (t.strike ip).withReserved r := by
  unfold strike
  rw [lookup_withReserved]
  split <;> rfl

lemma put_withReserved (t : LeaseTable) (r : List IpAddr) (l : Lease) :
    (t.withReserved r).put l = ((t.put l).1, (t.put l).2.withReserved r) := by
  have hcheck : (t.withReserved r).checkCommit l = t.checkCommit l := rfl
  unfold put
  rw [hcheck]
  split
  · rfl
  · rfl
  · rw [strike_withReserved]
    rfl

lemma commit_withReserved (t : LeaseTable) (r : List IpAddr) (l : Lease) :
    (t.withReserved r).commit l = ((t.commit l).1, (t.commit l).2.withReserved r) := by
  have hfamily : (t.withReserved r).checkFamily l.ip = t.checkFamily l.ip := rfl
  unfold commit
  rw [hfamily]
  split
  · rfl
  · exact put_withReserved t r l

/-- No change looks at the reservations or touches them. -/
theorem change_withReserved (t : LeaseTable) (r : List IpAddr) (c : TableChange) :
    (t.withReserved r).change c = (t.change c).withReserved r := by
  -- all checks are about the leases
  have hfamily : ∀ ip, (t.withReserved r).checkFamily ip = t.checkFamily ip := fun _ => rfl
  have hfind : ∀ ip client, (t.withReserved r).find ip client = t.find ip client := fun _ _ => rfl
  cases c with
  | commit l => rw [change, commit_withReserved, change]
  | insert l =>
    simp only [change, insert, hfamily, lookup_withReserved]
    split
    · rfl
    · split
      · rfl
      · rw [put_withReserved]
  | renew now client ip d =>
    simp only [change, renew, hfind]
    split
    · rfl
    · split <;> rfl
  | remove ip client =>
    simp only [change, remove, hfind]
    split
    · rfl
    · exact strike_withReserved t r ip
  | edit old new =>
    simp only [change, edit, hfamily, hfind, strike_withReserved, put_withReserved]
    split
    · rfl
    · split
      · rfl
      · obtain ⟨result, t'⟩ := (t.strike old.ip).put new
        cases result <;> rfl
  | reset => rfl
  | reap now =>
    exact List.foldl_hom (withReserved · r) fun t l => strike_withReserved t r l.ip

@[simp] lemma reserved_change (t : LeaseTable) (c : TableChange) :
    (t.change c).reserved = t.reserved :=
  congrArg (·.reserved) (change_withReserved t t.reserved c)

lemma commit_release (t : LeaseTable) (l : Lease) (ip : IpAddr) :
    (t.release ip).commit l = ((t.commit l).1, (t.commit l).2.release ip) := by
  have hkeeps : (t.commit l).2.reserved = t.reserved := reserved_change t (.commit l)
  rw [release_eq_withReserved, commit_withReserved, release_eq_withReserved, hkeeps]

end DhcpLeasing.LeaseTable
