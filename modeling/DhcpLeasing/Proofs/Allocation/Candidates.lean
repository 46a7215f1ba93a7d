import DhcpLeasing.Proofs.AddressPool.Candidates
import DhcpLeasing.Proofs.Allocation

/-!
# The addresses that an allocation tries

An allocation finds the addresses that it tries one at a time, each by a search that passes over
those found before. Here they are listed all at once:

* `Scope.free` lists the addresses that an allocation can get, in ascending order;
* `Allocation.candidates` lists those that it tries, in the order in which it does;
* `reserveFirst_of_candidates` and `reserveNext_of_rest` show that the searches go through that
  list.
-/

namespace DhcpLeasing

namespace Scope

variable {s : Scope} {ip : IpAddr}

/-- The addresses that an allocation can get, in ascending order: those to choose from that are
neither leased nor reserved. -/
def free (s : Scope) : List IpAddr :=
  s.pool.addresses.filter (!s.table.isTaken ·)

lemma mem_free_iff (h : s.Sound) :
    ip ∈ s.free ↔ s.pool.inDynamicRange ip ∧ s.table.lookup ip = none ∧ ip ∉ s.table.reserved := by
  rw [free, List.mem_filter, h.pool.mem_addresses_iff, Bool.not_eq_true',
    LeaseTable.isTaken_eq_false_iff]

lemma free_nodup (h : s.Sound) : s.free.Nodup :=
  h.pool.addresses_nodup.filter _

end Scope

namespace Allocation

variable {s : Scope} {claim : Claim} {ip : IpAddr} {excluded more : List IpAddr} {attempts : ℕ}

/-- The addresses that are left when some have been excluded. -/
def others (excluded : List IpAddr) (s : Scope) : List IpAddr :=
  s.free.filter (· ∉ excluded)

/-- The candidates that may be tried when some have been excluded and so many attempts are left. -/
def rest (excluded : List IpAddr) (attempts : ℕ) (s : Scope) : List IpAddr :=
  (others excluded s).take attempts

/-- The wanted address if it can be given. -/
def wantedFree (wanted : Option IpAddr) (s : Scope) : Option IpAddr :=
  wanted.filter fun ip => s.pool.inDynamicRange ip && !s.table.isTaken ip

/-- The addresses that an allocation tries, in this order: the wanted one, if it can be given, and
the lowest of the others. -/
def candidates (wanted : Option IpAddr) (s : Scope) : List IpAddr :=
  (wantedFree wanted s).toList ++ rest (wantedFree wanted s).toList maxAttempts s

lemma mem_free_of_mem_candidates (h : s.Sound) {wanted : Option IpAddr}
    (hip : ip ∈ candidates wanted s) : ip ∈ s.free := by
  rcases List.mem_append.1 hip with hip | hip
  · rw [Option.mem_toList, wantedFree, Option.filter_eq_some_iff] at hip
    obtain ⟨-, hfree⟩ := hip
    rw [Scope.free, List.mem_filter, h.pool.mem_addresses_iff]
    simpa using hfree
  · exact List.mem_of_mem_filter (List.mem_of_mem_take hip)

lemma length_candidates_le (wanted : Option IpAddr) (s : Scope) :
    (candidates wanted s).length ≤ maxAttempts + 1 := by
  have hrest := List.length_take_le maxAttempts (others (wantedFree wanted s).toList s)
  have hwanted : (wantedFree wanted s).toList.length ≤ 1 := by
    cases wantedFree wanted s <;> simp
  rw [candidates, List.length_append, rest]
  omega

lemma rest_eq_cons_iff :
    rest excluded attempts s = ip :: more ↔
      ∃ n as, attempts = n + 1 ∧ others excluded s = ip :: as ∧ as.take n = more := by
  rw [rest]
  cases attempts with
  | zero => simp
  | succ n =>
    cases others excluded s with
    | nil => simp
    | cons a as => simp [and_assoc]

lemma others_cons (h : s.Sound) {as : List IpAddr} (hothers : others excluded s = ip :: as) :
    others (ip :: excluded) s = as := by
  have hexclude : others (ip :: excluded) s = (others excluded s).filter (· ≠ ip) := by
    rw [others, others, List.filter_filter]
    apply List.filter_congr
    intro a _
    simp
  have hnodup : (others excluded s).Nodup := (Scope.free_nodup h).filter _
  rw [hothers, List.nodup_cons] at hnodup
  rw [hexclude, hothers, List.filter_cons_of_neg (by simp), List.filter_eq_self]
  intro a ha
  have hne : a ≠ ip := by
    intro heq
    exact hnodup.1 (heq ▸ ha)
  simpa using hne

/-- What is left when the first of the candidates has been excluded, too. -/
lemma rest_cons (h : s.Sound) (hrest : rest excluded attempts s = ip :: more) :
    rest (ip :: excluded) (attempts - 1) s = more := by
  obtain ⟨n, as, rfl, hothers, hmore⟩ := rest_eq_cons_iff.1 hrest
  rw [rest, others_cons h hothers, Nat.add_sub_cancel, hmore]

/-! ## The searches -/

lemma reserveCandidate_eq (h : s.pool.stateful) (excluded : List IpAddr) :
    s.table.reserveCandidate s.pool excluded =
      (others excluded s).head?.map fun ip => (ip, s.table.hold ip) := by
  have htaken : (fun ip => !(s.table.isTaken ip || excluded.contains ip)) =
      fun ip => decide (ip ∉ excluded) && !s.table.isTaken ip := by
    funext ip
    simp [Bool.and_comm]
  rw [LeaseTable.reserveCandidate, AddressPool.nextCandidate_eq_find? h, htaken, others, Scope.free,
    List.filter_filter, List.head?_filter]
  rfl

/-- The next candidate is the first of those that may still be tried. -/
lemma reserveNext_of_rest (hstateful : s.pool.stateful)
    (hrest : rest excluded attempts s = ip :: more) :
    reserveNext excluded s attempts = some (ip, attempts - 1, s.hold ip) := by
  obtain ⟨n, as, rfl, hothers, -⟩ := rest_eq_cons_iff.1 hrest
  rw [reserveNext, reserveCandidate_eq hstateful, hothers]
  rfl

lemma reserveNext_of_rest_nil (hstateful : s.pool.stateful)
    (hrest : rest excluded attempts s = []) : reserveNext excluded s attempts = none := by
  cases attempts with
  | zero => rfl
  | succ attempts =>
    have hothers : others excluded s = [] := by simpa [rest, List.take_eq_nil_iff] using hrest
    rw [reserveNext, reserveCandidate_eq hstateful, hothers]
    rfl

lemma reserveWanted_eq (claim : Claim) (s : Scope) :
    reserveWanted claim s =
      (wantedFree claim.request.wanted s).map fun ip => (ip, maxAttempts, s.hold ip) := by
  unfold reserveWanted wantedFree LeaseTable.reserve
  cases claim.request.wanted with
  | none => rfl
  | some ip =>
    cases hrange : s.pool.inDynamicRange ip with
    | false => simp [hrange]
    | true =>
      cases htaken : s.table.isTaken ip with
      | true => simp [hrange, htaken]
      | false =>
        simp [hrange, htaken, Scope.hold, LeaseTable.hold, LeaseTable.withReserved]

/-- The first address is the first of the candidates, and those after it may be tried next. -/
lemma reserveFirst_of_candidates (h : s.Sound) (hstateful : s.pool.stateful)
    (hcandidates : candidates claim.request.wanted s = ip :: more) :
    ∃ attempts, reserveFirst claim s = some (ip, attempts, s.hold ip) ∧
      rest [ip] attempts s = more := by
  unfold candidates at hcandidates
  cases hwanted : wantedFree claim.request.wanted s with
  | some wanted =>
    rw [hwanted, Option.toList_some, List.singleton_append, List.cons.injEq] at hcandidates
    obtain ⟨rfl, hmore⟩ := hcandidates
    exact ⟨maxAttempts, by rw [reserveFirst, reserveWanted_eq, hwanted]; rfl, hmore⟩
  | none =>
    rw [hwanted, Option.toList_none, List.nil_append] at hcandidates
    refine ⟨maxAttempts - 1, ?_, rest_cons h hcandidates⟩
    rw [reserveFirst, reserveWanted_eq, hwanted, reserveNext_of_rest hstateful hcandidates]
    rfl

lemma reserveFirst_of_candidates_nil (hstateful : s.pool.stateful)
    (hcandidates : candidates claim.request.wanted s = []) : reserveFirst claim s = none := by
  obtain ⟨hwanted, hrest⟩ := List.append_eq_nil_iff.1 hcandidates
  have hnone : wantedFree claim.request.wanted s = none := by simpa using hwanted
  rw [hnone, Option.toList_none] at hrest
  rw [reserveFirst, reserveWanted_eq, hnone, reserveNext_of_rest_nil hstateful hrest]
  rfl

end Allocation

end DhcpLeasing
