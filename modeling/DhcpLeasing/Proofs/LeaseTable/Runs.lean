import DhcpLeasing.Proofs.LeaseTable.Changes
import DhcpLeasing.Proofs.Text.Lowercase

/-!
# Runs of changes

A table that starts empty and goes through any changes, refused ones included. Every change keeps
the indexes in step, so every run does; what the indexes answer is then what a search through the
list of all leases finds. `WellFormed.lookup_change_cases` says what a change makes of one entry.
-/

namespace DhcpLeasing

open Text

/-- A change of a table, with all that it depends on. -/
inductive TableChange where
  | commit (l : Lease)
  | insert (l : Lease)
  | renew (now : Timestamp) (client : HwAddr) (ip : IpAddr) (d : Duration)
  | remove (ip : IpAddr) (client : HwAddr)
  | edit (old new : Lease)
  | reset
  | reap (now : Timestamp)

namespace LeaseTable

/-- The table after a change, whether it was accepted or refused. -/
def change (t : LeaseTable) : TableChange → LeaseTable
  | .commit l => (t.commit l).2
  | .insert l => (t.insert l).2
  | .renew now client ip d => (t.renew now client ip d).2
  | .remove ip client => (t.remove ip client).2
  | .edit old new => (t.edit old new).2
  | .reset => t.reset.2
  | .reap now => (t.reapExpired now).2

/-- The table after changes one after another. -/
def run (t : LeaseTable) (changes : List TableChange) : LeaseTable :=
  changes.foldl change t

variable {t : LeaseTable}

/-! ## What every change keeps -/

/-- Every change keeps the indexes in step. -/
lemma WellFormed.change (h : t.WellFormed) (c : TableChange) : (t.change c).WellFormed := by
  cases c with
  | commit l =>
    rcases commit_cases h l with ⟨e, heq⟩ | ⟨hfamily, hadm, heq⟩ <;> rw [LeaseTable.change, heq]
    · exact h
    · exact h.enter_of_admits hfamily hadm
  | insert l =>
    rcases insert_cases h l with ⟨e, heq⟩ | ⟨hfamily, -, hadm, heq⟩ <;>
      rw [LeaseTable.change, heq]
    · exact h
    · exact h.enter_of_admits hfamily hadm
  | renew now client ip d =>
    rcases renew_cases t now client ip d with ⟨e, heq⟩ | ⟨l, hl, -, -, heq⟩ <;>
      rw [LeaseTable.change, heq]
    · exact h
    · exact h.renewed hl now d
  | remove ip client =>
    rcases remove_cases t ip client with ⟨e, heq⟩ | ⟨l, -, -, heq⟩ <;> rw [LeaseTable.change, heq]
    · exact h
    · exact h.strike ip
  | edit old new =>
    rcases edit_cases h old new with ⟨e, heq⟩ | ⟨l, -, -, hfamily, hadm, heq⟩ <;>
      rw [LeaseTable.change, heq]
    · exact h
    · exact (h.strike old.ip).enter_of_admits (by simpa using hfamily) hadm
  | reset => exact (WellFormed.empty t.family).withReserved t.reserved
  | reap now => exact h.strikeAll _

/-- No change moves a table to another family. -/
lemma family_change (h : t.WellFormed) (c : TableChange) :
    (t.change c).family = t.family := by
  cases c with
  | commit l => rcases commit_cases h l with ⟨e, heq⟩ | ⟨-, -, heq⟩ <;> simp [change, heq]
  | insert l => rcases insert_cases h l with ⟨e, heq⟩ | ⟨-, -, -, heq⟩ <;> simp [change, heq]
  | renew now client ip d =>
    rcases renew_cases t now client ip d with ⟨e, heq⟩ | ⟨l, -, -, -, heq⟩ <;> simp [change, heq]
  | remove ip client =>
    rcases remove_cases t ip client with ⟨e, heq⟩ | ⟨l, -, -, heq⟩ <;> simp [change, heq]
  | edit old new =>
    rcases edit_cases h old new with ⟨e, heq⟩ | ⟨l, -, -, -, -, heq⟩ <;> simp [change, heq]
  | reset => rfl
  | reap now => simp [change]

/-- Every run keeps the indexes in step, and the family. -/
lemma WellFormed.run (h : t.WellFormed) (changes : List TableChange) :
    (t.run changes).WellFormed ∧ (t.run changes).family = t.family := by
  -- the run goes on from the table after its first change
  induction changes generalizing t with
  | nil => exact ⟨h, rfl⟩
  | cons c rest ih =>
    obtain ⟨hwf, hfamily⟩ := ih (h.change c)
    exact ⟨hwf, hfamily.trans (family_change h c)⟩

/-! ## What becomes of an entry -/

/-- The leases that a change can bring into a table. -/
def Brings (t : LeaseTable) (c : TableChange) (l : Lease) : Prop :=
  match c with
  | .commit m => l = m
  | .insert m => l = m
  | .renew now _ ip d => ∃ m, t.lookup ip = some m ∧ m.isStatic = false ∧ l = m.renew now d
  | .edit _ m => l = m
  | .remove _ _ => False
  | .reset => False
  | .reap _ => False

end LeaseTable

namespace Lease

@[simp] lemma ip_renew (now : Timestamp) (d : Duration) (held : Lease) :
    (held.renew now d).ip = held.ip := by
  unfold renew
  split <;> rfl

@[simp] lemma hwAddr_renew (now : Timestamp) (d : Duration) (held : Lease) :
    (held.renew now d).hwAddr = held.hwAddr := by
  unfold renew
  split <;> rfl

end Lease

namespace TableChange

/-- Whether a change takes a lease away or is meant to replace it. -/
def Takes (held : Lease) : TableChange → Prop
  | .remove ip client => ip = held.ip ∧ client = held.hwAddr
  | .edit old _ => old.ip = held.ip ∧ old.hwAddr = held.hwAddr
  | .reset => True
  | .reap now => held.isExpiredAt now
  | .commit _ => False
  | .insert _ => False
  | .renew .. => False

/-- Whether a change commits a lease, alone or in the place of another one. -/
def Commits (l : Lease) : TableChange → Prop
  | .commit m => m = l
  | .edit _ new => new = l
  | _ => False

/-- What it means that a change puts a lease in the place of one that it is not meant to replace: it
is for the same client and the same address. In place of a static lease only a static one comes that
is committed. -/
structure Supplants (c : TableChange) (held l : Lease) : Prop where
  ip : l.ip = held.ip
  hwAddr : l.hwAddr = held.hwAddr
  static : held.isStatic → l.isStatic ∧ c.Commits l

end TableChange

namespace LeaseTable

variable {t : LeaseTable} {ip : IpAddr} {l : Lease} {c : TableChange}

/-- A table takes a lease in place of another one only if it supplants that one. -/
lemma Admits.supplants {held : Lease} (hadm : t.Admits l) (h : t.WellFormed)
    (hheld : t.lookup l.ip = some held) (hc : c.Commits l) : c.Supplants held l := by
  have hip : held.ip = l.ip := h.ip_eq hheld
  obtain ⟨-, hhw, hstatic⟩ := hadm hheld (.inl hip.symm)
  exact ⟨hip.symm, hhw.symm, fun hheld => ⟨hstatic hheld, hc⟩⟩

/-- **What becomes of the entry for an address.** A change leaves it as it is, or takes it away, or
puts a lease there that it brings: in place of one that it is meant to take away, or of one that it
supplants. -/
theorem WellFormed.lookup_change_cases (h : t.WellFormed) (c : TableChange) (ip : IpAddr) :
    (t.change c).lookup ip = t.lookup ip ∨
      ((t.change c).lookup ip = none ∧ ∀ held, t.lookup ip = some held → c.Takes held) ∨
      ∃ l, (t.change c).lookup ip = some l ∧ t.Brings c l ∧
        ∀ held, t.lookup ip = some held → c.Takes held ∨ c.Supplants held l := by
  cases c with
  | commit l =>
    rcases commit_cases h l with ⟨e, heq⟩ | ⟨-, hadm, heq⟩ <;> rw [LeaseTable.change, heq]
    · exact .inl rfl
    · rw [lookup_enter_strike]
      split
      · next hip =>
        subst hip
        exact .inr (.inr ⟨l, rfl, rfl, fun held hheld => .inr (hadm.supplants h hheld rfl)⟩)
      · exact .inl rfl
  | insert l =>
    rcases insert_cases h l with ⟨e, heq⟩ | ⟨-, hnone, -, heq⟩ <;> rw [LeaseTable.change, heq]
    · exact .inl rfl
    · rw [lookup_enter_strike]
      split
      · next hip =>
        -- there was none
        subst hip
        refine .inr (.inr ⟨l, rfl, rfl, ?_⟩)
        simp [hnone]
      · exact .inl rfl
  | renew now client ip' d =>
    rcases renew_cases t now client ip' d with ⟨e, heq⟩ | ⟨m, hm, -, hdynamic, heq⟩ <;>
      rw [LeaseTable.change, heq]
    · exact .inl rfl
    · simp only [lookup, SortedMap.get?_insert]
      split
      · next hip =>
        subst hip
        refine .inr (.inr ⟨_, rfl, ⟨m, hm, hdynamic, rfl⟩, ?_⟩)
        intro held hheld
        obtain rfl := Option.some.inj (hm.symm.trans hheld)
        exact .inr ⟨Lease.ip_renew .., Lease.hwAddr_renew .., by simp [hdynamic]⟩
      · exact .inl rfl
  | remove ip' client =>
    rcases remove_cases t ip' client with ⟨e, heq⟩ | ⟨m, hm, hhw, heq⟩ <;>
      rw [LeaseTable.change, heq]
    · exact .inl rfl
    · rw [lookup_strike]
      split
      · next hip =>
        subst hip
        refine .inr (.inl ⟨rfl, ?_⟩)
        intro held hheld
        obtain rfl := Option.some.inj (hm.symm.trans hheld)
        exact ⟨(h.ip_eq hm).symm, hhw.symm⟩
      · exact .inl rfl
  | edit old new =>
    rcases edit_cases h old new with ⟨e, heq⟩ | ⟨m, hm, hhw, -, hadm, heq⟩ <;>
      rw [LeaseTable.change, heq]
    · exact .inl rfl
    · -- the old lease is taken away, wherever the new one goes
      have hold : ∀ held, t.lookup old.ip = some held → (TableChange.edit old new).Takes held := by
        intro held hheld
        obtain rfl := Option.some.inj (hm.symm.trans hheld)
        exact ⟨(h.ip_eq hm).symm, hhw.symm⟩
      rw [lookup_enter_strike]
      split
      · next hip =>
        subst hip
        refine .inr (.inr ⟨new, rfl, rfl, ?_⟩)
        intro held hheld
        by_cases hsame : new.ip = old.ip
        · exact .inl (hold held (hsame ▸ hheld))
        · have hleft : (t.strike old.ip).lookup new.ip = some held := by
            rw [lookup_strike, if_neg hsame, hheld]
          exact .inr (hadm.supplants (h.strike old.ip) hleft rfl)
      · rw [lookup_strike]
        split
        · next hip => exact .inr (.inl ⟨rfl, fun held hheld => hold held (hip ▸ hheld)⟩)
        · exact .inl rfl
  | reset => exact .inr (.inl ⟨rfl, fun _ _ => trivial⟩)
  | reap now =>
    rw [LeaseTable.change, h.lookup_reapExpired]
    cases hl : t.lookup ip with
    | none => exact .inl rfl
    | some held =>
      cases hexpired : held.isExpiredAt now with
      | true =>
        refine .inr (.inl ⟨by simp [hexpired], ?_⟩)
        intro held' hheld'
        obtain rfl := Option.some.inj hheld'
        exact hexpired
      | false => exact .inl (by simp [hexpired])

/-- What is in a table after a change was there before, or the change has brought it. -/
lemma WellFormed.lookup_change_of_some (h : t.WellFormed)
    (hl : (t.change c).lookup ip = some l) : t.lookup ip = some l ∨ t.Brings c l := by
  rcases h.lookup_change_cases c ip with hsame | ⟨hnone, -⟩ | ⟨m, hm, hbrings, -⟩
  · exact .inl (hsame ▸ hl)
  · rw [hnone] at hl
    cases hl
  · obtain rfl := Option.some.inj (hm.symm.trans hl)
    exact .inr hbrings

/-! ## Searching through all leases -/

/-- A search finds the one element with a property. -/
lemma find?_eq_of_iff {α : Type} {ls : List α} {p : α → Bool} {o : Option α}
    (h : ∀ x, o = some x ↔ x ∈ ls ∧ p x) : ls.find? p = o := by
  cases hfind : ls.find? p with
  | none =>
    cases o with
    | none => rfl
    | some x =>
      obtain ⟨hmem, hp⟩ := (h x).1 rfl
      exact absurd hp (List.find?_eq_none.1 hfind x hmem)
  | some x => exact ((h x).2 ⟨List.mem_of_find?_eq_some hfind, List.find?_some hfind⟩).symm

lemma WellFormed.lookup_eq_find? (h : t.WellFormed) (ip : IpAddr) :
    t.lookup ip = t.leases.find? (·.ip = ip) := by
  symm
  apply find?_eq_of_iff
  intro l
  rw [h.mem_leases_iff, decide_eq_true_eq]
  constructor
  · intro hl
    exact ⟨by rwa [h.ip_eq hl], h.ip_eq hl⟩
  · rintro ⟨hl, rfl⟩
    exact hl

lemma WellFormed.lookupByHw_eq_find? (h : t.WellFormed) (client : HwAddr) :
    t.lookupByHw client = t.leases.find? (·.hwAddr = client) := by
  symm
  apply find?_eq_of_iff
  intro l
  rw [h.mem_leases_iff, decide_eq_true_eq, h.lookupByHw_eq_some_iff]

lemma WellFormed.lookupByHostname_eq_find? (h : t.WellFormed) {hostname : String}
    (hname : hostname ≠ "") :
    t.lookupByHostname hostname =
      t.leases.find? fun l => lowercase l.hostname = lowercase hostname := by
  symm
  apply find?_eq_of_iff
  intro l
  rw [h.mem_leases_iff, decide_eq_true_eq, h.lookupByHostname_eq_some_iff hname]
  -- the lease has a hostname because the one asked for is not empty
  have hlname : lowercase l.hostname = lowercase hostname → l.hostname ≠ "" := by
    intro heq hempty
    rw [hempty, lowercase_eq_empty_iff.2 rfl] at heq
    exact hname (lowercase_eq_empty_iff.1 heq.symm)
  constructor
  · intro ⟨hl, _, heq⟩
    exact ⟨hl, heq⟩
  · intro ⟨hl, heq⟩
    exact ⟨hl, hlname heq, heq⟩

/-- The leases are listed in strictly ascending order of their addresses. -/
lemma WellFormed.leases_ascending (h : t.WellFormed) :
    t.leases.Pairwise fun l m => compare l.ip m.ip = .lt := by
  rw [leases, SortedMap.values, List.pairwise_map]
  -- the entries ascend by the addresses that they are stored under, which are those of the leases
  apply t.byIp.ascending.imp_of_mem
  intro a b ha hb hlt
  rwa [h.ip_eq (SortedMap.mem_toList_iff.1 ha), h.ip_eq (SortedMap.mem_toList_iff.1 hb)]

/-! ## The indexes of every reachable table -/

/-- **The indexes always agree.** However a table has come about, its indexes are exact projections
of one another, so that no two leases share a key, the list is sorted, and every index answers as a
search through the list does. -/
theorem run_indexes_agree (family : Family) (changes : List TableChange) :
    let t := (empty family).run changes
    (∀ ip l, (ip, l) ∈ t.byIp.toList → l.ip = ip ∧ ip.family = family) ∧
    (∀ client ip, (client, ip) ∈ t.byHw.toList ↔ ∃ l ∈ t.leases, l.hwAddr = client ∧ l.ip = ip) ∧
    (∀ key ip, (key, ip) ∈ t.byHost.toList ↔
      ∃ l ∈ t.leases, l.hostname ≠ "" ∧ lowercase l.hostname = key ∧ l.ip = ip) ∧
    (∀ l ∈ t.leases, ∀ m ∈ t.leases, l.SharesKey m → l = m) ∧
    (t.leases.Pairwise fun l m => compare l.ip m.ip = .lt) ∧
    (∀ ip, t.lookup ip = t.leases.find? (·.ip = ip)) ∧
    (∀ client, t.lookupByHw client = t.leases.find? (·.hwAddr = client)) ∧
    ∀ hostname, hostname ≠ "" → t.lookupByHostname hostname =
      t.leases.find? fun l => lowercase l.hostname = lowercase hostname := by
  intro t
  obtain ⟨h, hfamily⟩ := (WellFormed.empty family).run changes
  refine ⟨?_, ?_, ?_, ?_, h.leases_ascending, h.lookup_eq_find?, h.lookupByHw_eq_find?, ?_⟩
  · intro ip l hl
    have hl := SortedMap.mem_toList_iff.1 hl
    exact ⟨h.ip_eq hl, (h.family_eq hl).trans hfamily⟩
  · intro client ip
    rw [SortedMap.mem_toList_iff, h.byHw_iff]
    constructor
    · rintro ⟨l, hl, rfl⟩
      exact ⟨l, h.mem_leases_iff.2 (by rwa [h.ip_eq hl]), rfl, h.ip_eq hl⟩
    · rintro ⟨l, hl, rfl, rfl⟩
      exact ⟨l, h.mem_leases_iff.1 hl, rfl⟩
  · intro key ip
    rw [SortedMap.mem_toList_iff, h.byHost_iff]
    constructor
    · rintro ⟨l, hl, hname, rfl⟩
      exact ⟨l, h.mem_leases_iff.2 (by rwa [h.ip_eq hl]), hname, rfl, h.ip_eq hl⟩
    · rintro ⟨l, hl, hname, rfl, rfl⟩
      exact ⟨l, h.mem_leases_iff.1 hl, hname, rfl⟩
  · intro l hl m hm hshare
    have hl := h.mem_leases_iff.1 hl
    have hm := h.mem_leases_iff.1 hm
    rw [h.eq_of_sharesKey hl hm hshare] at hl
    exact Option.some.inj (hl.symm.trans hm)
  · intro hostname hname
    exact h.lookupByHostname_eq_find? hname

end LeaseTable

end DhcpLeasing
