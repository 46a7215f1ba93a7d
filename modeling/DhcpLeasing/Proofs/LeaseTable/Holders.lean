import DhcpLeasing.LeaseTable.Command
import DhcpLeasing.Proofs.AddressPool.Coherence
import DhcpLeasing.Proofs.LeaseTable.Reservations

/-!
# Reservations and those who hold them

Reservations of a table are made and given up in any order, while leases come and go. What is
reserved are at any time the addresses of the reservations that have not been given up, each of them
held once:

* `Workbench.submit_cases`: a command makes one reservation of a free address, or gives up one, or
  leaves all of them alone;
* `Workbench.Accounted`: the invariant that ties the reserved addresses to the slots;
* `Workbench.holders_exclusive`: what follows after any schedule of commands, for each of which
  another pool may be in place.
-/

namespace DhcpLeasing

namespace AddressPool

/-- Whatever the pool, its candidate is not taken. -/
lemma not_taken_of_nextCandidate {p : AddressPool} {taken : IpAddr → Bool} {ip : IpAddr}
    (h : p.nextCandidate taken = some ip) : taken ip = false := by
  unfold nextCandidate at h
  split at h
  · obtain ⟨n, hn, rfl⟩ := Option.map_eq_some_iff.1 h
    obtain ⟨-, hfree, -⟩ := leastFree_eq_some_iff.1 hn
    simp only [Bool.and_eq_true, Bool.not_eq_true'] at hfree
    exact hfree.2
  · cases h

end AddressPool

/-- Whether a command makes a reservation or gives one up. -/
def TableCommand.isReservation : TableCommand → Bool
  | .reserve _ => true
  | .reserveCandidate _ => true
  | .drop _ => true
  | _ => false

namespace Workbench

variable {w : Workbench} {ip : IpAddr} {slot : ℕ}

/-! ## Schedules -/

/-- The workbench with another pool. -/
def withPool (w : Workbench) (pool : AddressPool) : Workbench :=
  { w with pool }

/-- The workbench after a command that finds a pool in place. -/
def perform (w : Workbench) (command : AddressPool × TableCommand) : Workbench :=
  ((w.withPool command.1).submit command.2).2

/-- The workbench after commands one after another. -/
def run (w : Workbench) (schedule : List (AddressPool × TableCommand)) : Workbench :=
  schedule.foldl perform w

/-- The workbench with an address reserved, whose reservation is in the next slot. -/
def holding (w : Workbench) (ip : IpAddr) : Workbench :=
  { w with table := w.table.hold ip, slots := w.slots ++ [some ip] }

/-- The workbench with the reservation of an address given up that was in a slot. -/
def dropping (w : Workbench) (slot : ℕ) (ip : IpAddr) : Workbench :=
  { w with table := w.table.release ip, slots := w.slots.set slot none }

lemma held_holding (w : Workbench) (ip : IpAddr) : (w.holding ip).held = w.held ++ [ip] := by
  simp [held, holding]

/-- Emptying a slot takes the address in it out of those that are held. -/
lemma held_perm_cons {slots : List (Option IpAddr)} (h : slots[slot]? = some (some ip)) :
    (slots.filterMap id).Perm (ip :: (slots.set slot none).filterMap id) := by
  induction slots generalizing slot with
  | nil => simp at h
  | cons s rest ih =>
    cases slot with
    | zero =>
      obtain rfl : s = some ip := by simpa using h
      simp
    | succ slot =>
      have hslot : rest[slot]? = some (some ip) := by simpa using h
      have hrest := ih hslot
      cases s with
      | none => simpa using hrest
      | some ip' => simpa using (hrest.cons ip').trans (.swap ip ip' _)

/-! ## One command -/

lemma submit_reserve (w : Workbench) (ip : IpAddr) :
    (w.table.lookup ip = none ∧ ip ∉ w.table.reserved) ∧
        w.submit (.reserve ip) = (.text (some ip.toText), w.holding ip) ∨
      ¬ (w.table.lookup ip = none ∧ ip ∉ w.table.reserved) ∧
        w.submit (.reserve ip) = (.text none, w) := by
  cases hreserve : w.table.reserve ip with
  | none =>
    refine .inr ⟨?_, by simp [submit, hreserve, hold]⟩
    intro hfree
    rw [LeaseTable.reserve_eq_some_iff.2 ⟨hfree, rfl⟩] at hreserve
    cases hreserve
  | some t =>
    obtain ⟨hfree, rfl⟩ := LeaseTable.reserve_eq_some_iff.1 hreserve
    exact .inl ⟨hfree, by simp [submit, hreserve, hold, holding]⟩

lemma submit_reserveCandidate (w : Workbench) (excluded : List IpAddr) :
    let candidate := w.pool.nextCandidate fun ip => w.table.isTaken ip || excluded.contains ip
    (∃ ip, candidate = some ip ∧
        w.submit (.reserveCandidate excluded) = (.text (some ip.toText), w.holding ip)) ∨
      candidate = none ∧ w.submit (.reserveCandidate excluded) = (.text none, w) := by
  intro candidate
  have hreserve : w.table.reserveCandidate w.pool excluded =
      candidate.map fun ip => (ip, w.table.hold ip) := rfl
  rw [submit, hreserve]
  cases candidate with
  | none => exact .inr ⟨rfl, rfl⟩
  | some ip => exact .inl ⟨ip, rfl, rfl⟩

lemma submit_drop (h : w.slots[slot]? = some (some ip)) :
    w.submit (.drop slot) = (.truth true, w.dropping slot ip) := by
  simp [submit, drop, h, dropping]

/-- What a command does to reservations: it makes one of an address that is free, it gives one up,
or it leaves all of them alone. -/
lemma submit_cases (w : Workbench) (c : TableCommand) :
    ((w.submit c).2.table.reserved = w.table.reserved ∧ (w.submit c).2.slots = w.slots) ∨
      c.isReservation ∧
        ((∃ ip, (w.table.lookup ip = none ∧ ip ∉ w.table.reserved) ∧
            (w.submit c).2 = w.holding ip) ∨
          ∃ slot ip, w.slots[slot]? = some (some ip) ∧ (w.submit c).2 = w.dropping slot ip) := by
  -- a change of the leases keeps what is reserved
  have hchange : ∀ d : TableChange, (w.table.change d).reserved = w.table.reserved :=
    w.table.reserved_change
  cases c with
  | commit l => exact .inl ⟨hchange (.commit l), rfl⟩
  | insert l => exact .inl ⟨hchange (.insert l), rfl⟩
  | renew client ip d => exact .inl ⟨hchange (.renew _ client ip d), rfl⟩
  | remove ip client => exact .inl ⟨hchange (.remove ip client), rfl⟩
  | edit old new => exact .inl ⟨hchange (.edit old new), rfl⟩
  | reset => exact .inl ⟨hchange .reset, rfl⟩
  | reap time => exact .inl ⟨hchange (.reap _), rfl⟩
  | reserve ip =>
    rcases submit_reserve w ip with ⟨hfree, heq⟩ | ⟨-, heq⟩
    · exact .inr ⟨rfl, .inl ⟨ip, hfree, by rw [heq]⟩⟩
    · exact .inl (by simp [heq])
  | reserveCandidate excluded =>
    rcases submit_reserveCandidate w excluded with ⟨ip, hcandidate, heq⟩ | ⟨-, heq⟩
    · have hfree := AddressPool.not_taken_of_nextCandidate hcandidate
      rw [Bool.or_eq_false_iff, LeaseTable.isTaken_eq_false_iff] at hfree
      exact .inr ⟨rfl, .inl ⟨ip, hfree.1, by rw [heq]⟩⟩
    · exact .inl (by simp [heq])
  | drop slot =>
    cases hslot : w.slots[slot]?.join with
    | none => exact .inl (by simp [submit, drop, hslot])
    | some ip =>
      have hip : w.slots[slot]? = some (some ip) := Option.join_eq_some_iff.1 hslot
      exact .inr ⟨rfl, .inr ⟨slot, ip, hip, by rw [submit_drop hip]⟩⟩
  | _ => exact .inl ⟨rfl, rfl⟩

/-! ## The invariant -/

/-- The reserved addresses are those of the reservations that have not been given up, and no two of
these are for the same address. -/
def Accounted (w : Workbench) : Prop :=
  w.table.reserved.Perm w.held ∧ w.held.Nodup

lemma accounted_ofPool (clock : ℕ) (pool : AddressPool) (family : Family) :
    (ofPool clock pool family).Accounted :=
  ⟨.nil, .nil⟩

lemma Accounted.holding (h : w.Accounted) (hip : ip ∉ w.table.reserved) :
    (w.holding ip).Accounted := by
  obtain ⟨hperm, hnodup⟩ := h
  rw [Accounted, held_holding]
  have hlast : (ip :: w.held).Perm (w.held ++ [ip]) := (List.perm_append_singleton ip w.held).symm
  refine ⟨(hperm.cons ip).trans hlast, hlast.nodup_iff.1 (List.nodup_cons.2 ⟨?_, hnodup⟩)⟩
  rwa [← hperm.mem_iff]

lemma Accounted.dropping (h : w.Accounted) (hip : w.slots[slot]? = some (some ip)) :
    (w.dropping slot ip).Accounted := by
  obtain ⟨hperm, hnodup⟩ := h
  have hheld : w.held.Perm (ip :: (w.dropping slot ip).held) := held_perm_cons hip
  refine ⟨?_, (List.nodup_cons.1 (hheld.nodup_iff.1 hnodup)).2⟩
  -- the address was there once, so taking it out once leaves the others
  have herase := (hperm.trans hheld).erase ip
  rwa [List.erase_cons_head] at herase

/-- Every command keeps the account. -/
lemma Accounted.submit (h : w.Accounted) (c : TableCommand) : (w.submit c).2.Accounted := by
  rcases submit_cases w c with ⟨hreserved, hslots⟩ | ⟨-, ⟨ip, hfree, heq⟩ | ⟨slot, ip, hip, heq⟩⟩
  · unfold Accounted held
    rwa [hreserved, hslots]
  · rw [heq]
    exact h.holding hfree.2
  · rw [heq]
    exact h.dropping hip

/-- And so does every schedule. -/
lemma Accounted.run (h : w.Accounted) (schedule : List (AddressPool × TableCommand)) :
    (w.run schedule).Accounted := by
  -- the schedule goes on from the workbench after its first command
  induction schedule generalizing w with
  | nil => exact h
  | cons command rest ih => exact ih (Accounted.submit (w := w.withPool command.1) h command.2)

lemma Accounted.mem_reserved_iff (h : w.Accounted) : ip ∈ w.table.reserved ↔ ip ∈ w.held :=
  h.1.mem_iff

/-! ## After any schedule -/

/-- Whether an address is neither leased nor held. -/
def Free (w : Workbench) (ip : IpAddr) : Prop :=
  w.table.lookup ip = none ∧ ip ∉ w.held

/-- The addresses of the window of a pool that somebody may hold, that are free and that are not
excluded. -/
def available (w : Workbench) (pool : AddressPool) (excluded : List IpAddr) : Set IpAddr :=
  {ip | ip ∈ pool.window ∧ pool.isKept ip = false ∧ w.Free ip ∧ ip ∉ excluded}

/-- What is true of the reservations on a workbench. -/
structure Exclusive (w : Workbench) : Prop where
  /-- The reserved addresses are those of the reservations that are held. -/
  reserved_iff : ∀ ip, ip ∈ w.table.reserved ↔ ip ∈ w.held
  nodup : w.table.reserved.Nodup
  /-- No two held reservations have the same address. -/
  slot_unique : ∀ {i j : ℕ} {ip : IpAddr},
    w.slots[i]? = some (some ip) → w.slots[j]? = some (some ip) → i = j
  reserve : ∀ ip,
    w.Free ip ∧ w.submit (.reserve ip) = (.text (some ip.toText), w.holding ip) ∨
      ¬ w.Free ip ∧ w.submit (.reserve ip) = (.text none, w)
  /-- The candidate of a pool is the lowest of the addresses that are available. -/
  candidate : ∀ {pool : AddressPool}, pool.OfConfig → pool.stateful → ∀ excluded,
    (∃ ip ∈ w.available pool excluded,
        (∀ ip' ∈ w.available pool excluded, ip.number ≤ ip'.number) ∧
          (w.withPool pool).submit (.reserveCandidate excluded) =
            (.text (some ip.toText), (w.withPool pool).holding ip)) ∨
      w.available pool excluded = ∅ ∧
        (w.withPool pool).submit (.reserveCandidate excluded) = (.text none, w.withPool pool)
  /-- Giving a reservation up sets its address free, and no other. -/
  drop : ∀ {slot : ℕ} {ip : IpAddr}, w.slots[slot]? = some (some ip) →
    ∀ ip', ip' ∈ (w.submit (.drop slot)).2.table.reserved ↔ ip' ≠ ip ∧ ip' ∈ w.table.reserved
  /-- All other commands leave the reservations alone. -/
  others : ∀ {c : TableCommand}, c.isReservation = false →
    (w.submit c).2.table.reserved = w.table.reserved ∧ (w.submit c).2.slots = w.slots

lemma Accounted.mem_available_iff (h : w.Accounted) {pool : AddressPool} {excluded : List IpAddr} :
    ip ∈ w.available pool excluded ↔
      pool.inDynamicRange ip ∧ (w.table.isTaken ip || excluded.contains ip) = false := by
  rw [AddressPool.inDynamicRange_iff, Bool.or_eq_false_iff, LeaseTable.isTaken_eq_false_iff,
    h.mem_reserved_iff, List.contains_eq_mem, decide_eq_false_iff_not]
  have hwindow : ip ∈ pool.window ↔
      ip.family = pool.family ∧ pool.first ≤ ip.number ∧ ip.number ≤ pool.last := Iff.rfl
  have havailable : ip ∈ w.available pool excluded ↔
      ip ∈ pool.window ∧ pool.isKept ip = false ∧ w.Free ip ∧ ip ∉ excluded := Iff.rfl
  rw [havailable, hwindow, Free]
  tauto

/-- The candidate of a pool is the lowest address that is available. -/
lemma Accounted.nextCandidate_eq_some_iff (h : w.Accounted) {pool : AddressPool}
    (hpool : pool.OfConfig) (hstateful : pool.stateful) {excluded : List IpAddr} :
    (pool.nextCandidate fun ip => w.table.isTaken ip || excluded.contains ip) = some ip ↔
      ip ∈ w.available pool excluded ∧
        ∀ ip' ∈ w.available pool excluded, ip.number ≤ ip'.number := by
  rw [hpool.nextCandidate_eq_some_iff]
  simp only [h.mem_available_iff]
  constructor
  · rintro ⟨-, hrange, hfree, hleast⟩
    refine ⟨⟨hrange, hfree⟩, ?_⟩
    rintro ip' ⟨hrange', hfree'⟩
    by_contra hlt
    rw [hleast ip' hrange' (not_le.1 hlt)] at hfree'
    cases hfree'
  · rintro ⟨⟨hrange, hfree⟩, hlowest⟩
    refine ⟨hstateful, hrange, hfree, ?_⟩
    intro ip' hrange' hlt
    by_contra hfree'
    exact absurd (hlowest ip' ⟨hrange', Bool.eq_false_iff.2 hfree'⟩) (not_le.2 hlt)

/-- Of addresses, if there are any, one is the lowest. -/
lemma exists_lowest {s : Set IpAddr} (hs : s.Nonempty) :
    ∃ ip ∈ s, ∀ ip' ∈ s, ip.number ≤ ip'.number := by
  obtain ⟨ip, hip, hmin⟩ := (measure IpAddr.number).wf.has_min s hs
  exact ⟨ip, hip, fun ip' hip' => not_lt.1 (hmin ip' hip')⟩

/-- Once reservations are accounted for, all of the rest follows. -/
lemma Accounted.exclusive (h : w.Accounted) : w.Exclusive := by
  have hnodup : w.table.reserved.Nodup := h.1.nodup_iff.2 h.2
  refine ⟨fun ip => h.mem_reserved_iff, hnodup, ?_, ?_, ?_, ?_, ?_⟩
  · intro i j ip hi hj
    by_contra hne
    -- with the reservation in one slot given up the other one is still there
    have hj' : (w.slots.set i none)[j]? = some (some ip) := by
      rwa [List.getElem?_set_ne hne]
    have hmem : ip ∈ (w.slots.set i none).filterMap id :=
      List.mem_filterMap.2 ⟨some ip, List.mem_of_getElem? hj', rfl⟩
    exact (List.nodup_cons.1 ((held_perm_cons hi).nodup_iff.1 h.2)).1 hmem
  · intro ip
    unfold Free
    rw [← h.mem_reserved_iff]
    exact submit_reserve w ip
  · intro pool hpool hstateful excluded
    rcases submit_reserveCandidate (w.withPool pool) excluded with ⟨ip, hip, heq⟩ | ⟨hnone, heq⟩
    · obtain ⟨havailable, hlowest⟩ := (h.nextCandidate_eq_some_iff hpool hstateful).1 hip
      exact .inl ⟨ip, havailable, hlowest, heq⟩
    · refine .inr ⟨Set.not_nonempty_iff_eq_empty.1 ?_, heq⟩
      intro hnonempty
      obtain ⟨ip, hlowest⟩ := exists_lowest hnonempty
      cases hnone.symm.trans ((h.nextCandidate_eq_some_iff hpool hstateful).2 hlowest)
  · intro slot ip hip ip'
    rw [submit_drop hip]
    exact hnodup.mem_erase_iff
  · intro c hc
    rcases submit_cases w c with halone | ⟨hreserves, -⟩
    · exact halone
    · rw [hc] at hreserves
      cases hreserves

/-- **Reservations are exclusive.** After any schedule of commands, whatever pools were in place,
the reserved addresses are those whose reservations are held, each by one holder. An address is
reserved if it is neither leased nor held, a candidate is the lowest address available, and an
attempt that fails changes nothing. -/
theorem holders_exclusive (clock : ℕ) (pool : AddressPool) (family : Family)
    (schedule : List (AddressPool × TableCommand)) :
    ((ofPool clock pool family).run schedule).Exclusive :=
  ((accounted_ofPool clock pool family).run schedule).exclusive

/-- An address is leased to somebody else while its reservation is held. -/
theorem exists_holders_exclusive : ∃ w : Workbench, ∃ ip : IpAddr, ∃ l : Lease,
    w.Exclusive ∧ w.held = [ip] ∧ w.table.lookup ip = some l := by
  let l : Lease := .static (.v4 (.ofBytes 192 168 1 100)) ⟨[2, 0, 0, 0, 0, 1]⟩ "printer"
  let pool : AddressPool := .ofV4 .default
  let schedule : List (AddressPool × TableCommand) :=
    [(pool, .reserveCandidate []), (pool, .commit l)]
  exact ⟨(ofPool 0 pool .v4).run schedule, l.ip, l, holders_exclusive 0 pool .v4 schedule,
    by decide +kernel, by decide +kernel⟩

end Workbench

end DhcpLeasing
