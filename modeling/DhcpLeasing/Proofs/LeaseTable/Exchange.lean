import DhcpLeasing.Proofs.LeaseTable.Reservations

/-!
# What an operation does to the leases of a table

The indexes aside, an operation on one lease is an exchange: a lease comes in, and a few others, or
none, go. Here the leases of a table are a list, and every answer of an operation, be it yes or no,
is told by what a look through that list finds:

* `LeaseTable.Decides` says when a table accepts a lease that it is offered, and what it has then;
* a refusal leaves the table as it was, also that of an edit, which takes the old lease out before
  it offers the new one.
-/

namespace DhcpLeasing

open Text

/-! ## Leases in a list -/

/-- Whether two leases are of the same client for the same address. -/
def Lease.Matches (a b : Lease) : Prop :=
  a.ip = b.ip ∧ a.hwAddr = b.hwAddr

instance (a b : Lease) : Decidable (a.Matches b) :=
  inferInstanceAs (Decidable (_ ∧ _))

/-- The lease among others that is of the same client for the same address. -/
def Lease.counterpart (l : Lease) (ls : List Lease) : Option Lease :=
  ls.find? (·.Matches l)

/-- What it means that `ls'` are the leases `ls` with `l` in exchange for those that are gone. -/
def Exchanged (gone : List Lease) (l : Lease) (ls ls' : List Lease) : Prop :=
  ls'.Perm (l :: ls.filter (· ∉ gone))

variable {l m : Lease} {ls ls' : List Lease} {gone : List Lease}

lemma Lease.matches_of_counterpart (h : l.counterpart ls = some m) : m ∈ ls ∧ m.Matches l := by
  have hmatches := List.find?_some h
  exact ⟨List.mem_of_find?_eq_some h, by simpa using hmatches⟩

lemma Lease.erase_eq_filter (hnodup : ls.Nodup) (m : Lease) : ls.erase m = ls.filter (· ≠ m) := by
  rw [hnodup.erase_eq_filter]
  apply List.filter_congr
  intro x _
  by_cases hx : x = m <;> simp [hx]

/-- A lease for a lease leaves as many as there were. -/
lemma Exchanged.length_eq (h : Exchanged [m] l ls ls') (hnodup : ls.Nodup) (hm : m ∈ ls) :
    ls'.length = ls.length := by
  have hlength := List.Perm.length_eq h
  simp only [List.mem_singleton] at hlength
  rw [← Lease.erase_eq_filter hnodup, List.length_cons, List.length_erase_of_mem hm] at hlength
  have hpos : 0 < ls.length := List.length_pos_of_mem hm
  omega

namespace LeaseTable

/-! ## Tables that can come about -/

/-- A table of a family that can come about: through any changes, accepted or refused, and any
reservations that are made and given up. -/
inductive Reachable (family : Family) : LeaseTable → Prop
  | empty : Reachable family (.empty family)
  | change {t : LeaseTable} (h : Reachable family t) (c : TableChange) :
      Reachable family (t.change c)
  | reserve {t t' : LeaseTable} {ip : IpAddr} (h : Reachable family t)
      (ht : t.reserve ip = some t') : Reachable family t'
  | reserveCandidate {t t' : LeaseTable} {ip : IpAddr} {pool : AddressPool}
      {excluded : List IpAddr} (h : Reachable family t)
      (ht : t.reserveCandidate pool excluded = some (ip, t')) : Reachable family t'
  | release {t : LeaseTable} (h : Reachable family t) (ip : IpAddr) :
      Reachable family (t.release ip)

variable {family : Family} {t : LeaseTable} {ip : IpAddr} {client : HwAddr} {old new : Lease}

/-- However a table has come about, its indexes agree, and it is of the family it began with. -/
lemma Reachable.wellFormed (h : Reachable family t) : t.WellFormed ∧ t.family = family := by
  induction h with
  | empty => exact ⟨.empty family, rfl⟩
  | change _ c ih =>
    obtain ⟨hwf, hfamily⟩ := ih
    exact ⟨hwf.change c, (family_change hwf c).trans hfamily⟩
  | reserve _ ht ih =>
    obtain ⟨-, rfl⟩ := reserve_eq_some_iff.1 ht
    exact ⟨ih.1.withReserved _, ih.2⟩
  | reserveCandidate _ ht ih =>
    obtain ⟨ip', -, heq⟩ := Option.map_eq_some_iff.1 ht
    obtain ⟨-, rfl⟩ := Prod.mk.inj heq
    exact ⟨ih.1.withReserved _, ih.2⟩
  | release _ ip ih => exact ⟨ih.1.withReserved _, ih.2⟩

/-! ## The list of leases after the two moves -/

lemma WellFormed.counterpart_eq (h : t.WellFormed) (l : Lease) :
    l.counterpart t.leases = (t.lookup l.ip).filter (·.hwAddr = l.hwAddr) := by
  apply find?_eq_of_iff
  intro m
  rw [Option.filter_eq_some_iff, h.mem_leases_iff, decide_eq_true_eq, decide_eq_true_eq]
  constructor
  · rintro ⟨hm, hhw⟩
    have hip : m.ip = l.ip := h.ip_eq hm
    exact ⟨by rwa [hip], hip, hhw⟩
  · rintro ⟨hm, hip, hhw⟩
    exact ⟨by rwa [← hip], hhw⟩

lemma WellFormed.counterpart_eq_some_iff (h : t.WellFormed) :
    l.counterpart t.leases = some m ↔ t.lookup l.ip = some m ∧ m.hwAddr = l.hwAddr := by
  rw [h.counterpart_eq, Option.filter_eq_some_iff, decide_eq_true_eq]

lemma WellFormed.leases_strike (h : t.WellFormed) (ip : IpAddr) :
    (t.strike ip).leases = t.leases.filter (·.ip ≠ ip) := by
  apply SortedMap.values_eq_filter
  intro ip'
  show (t.strike ip).lookup ip' = (t.lookup ip').filter _
  rw [lookup_strike]
  cases hm : t.lookup ip' with
  | none => simp
  | some m => by_cases hip : ip' = ip <;> simp [Option.filter_some, h.ip_eq hm, hip]

/-- Striking a lease leaves all others. -/
lemma WellFormed.leases_strike_of_lookup (h : t.WellFormed) (hl : t.lookup ip = some l) :
    (t.strike ip).leases = t.leases.filter (· ≠ l) := by
  rw [h.leases_strike]
  apply List.filter_congr
  intro m hm
  have hm := h.mem_leases_iff.1 hm
  apply decide_eq_decide.2
  rw [not_iff_not]
  constructor
  · intro hip
    rw [hip, hl] at hm
    exact (Option.some.inj hm).symm
  · rintro rfl
    exact h.ip_eq hl

lemma WellFormed.leases_enter (h : t.WellFormed) (hentered : (t.enter l).WellFormed)
    (hfree : t.lookup l.ip = none) : (t.enter l).leases.Perm (l :: t.leases) := by
  have hnew : l ∉ t.leases := by
    rw [h.mem_leases_iff, hfree]
    simp
  refine (List.perm_ext_iff_of_nodup hentered.nodup_leases
    (List.nodup_cons.2 ⟨hnew, h.nodup_leases⟩)).2 ?_
  intro m
  rw [hentered.mem_leases_iff, lookup_enter, List.mem_cons, h.mem_leases_iff]
  split
  · next heq =>
    rw [heq, hfree]
    simp [eq_comm]
  · next hne =>
    have hother : m ≠ l := fun heq => hne (congrArg (·.ip) heq)
    simp [hother]

/-- Taking a lease that the table admits is an exchange for its counterpart. -/
lemma WellFormed.leases_of_admits (h : t.WellFormed) (hfamily : l.ip.family = t.family)
    (hadm : t.Admits l) :
    Exchanged (l.counterpart t.leases).toList l t.leases ((t.strike l.ip).enter l).leases := by
  have hfree : (t.strike l.ip).lookup l.ip = none := by simp
  have hleases := (h.strike l.ip).leases_enter (h.enter_of_admits hfamily hadm) hfree
  rw [h.leases_strike] at hleases
  have hgone : t.leases.filter (·.ip ≠ l.ip) =
      t.leases.filter (· ∉ (l.counterpart t.leases).toList) := by
    apply List.filter_congr
    intro m hm
    have hlookup := h.mem_leases_iff.1 hm
    apply decide_eq_decide.2
    rw [not_iff_not, Option.mem_toList, h.counterpart_eq_some_iff]
    -- a lease for the same address is of the same client, or it would not have been let in
    constructor
    · intro hip
      rw [hip] at hlookup
      exact ⟨hlookup, (hadm hlookup (.inl hip.symm)).2.1⟩
    · intro hm
      exact h.ip_eq hm.1
  rwa [hgone] at hleases

/-! ## Accepting leases -/

/-- What comes of a lease that is offered to a table: if it is accepted, it is there in exchange for
those that are gone; if not, it is for its family or for a conflict. -/
structure Decides (t : LeaseTable) (l : Lease) (accepted : Prop) (gone : List Lease)
    (r : Except LeaseError Lease × LeaseTable) : Prop where
  ok_iff : (∃ m, r.1 = .ok m) ↔ accepted
  taken : ∀ m, r.1 = .ok m → m = l ∧ Exchanged gone l t.leases r.2.leases
  wrongFamily : l.ip.family ≠ t.family → r.1 = .error (.invalidRequest (.wrongFamily l.ip t.family))
  conflict : l.ip.family = t.family → ¬ accepted → ∃ cause, r.1 = .error (.conflict cause)

/-- It is enough to know the three things that can happen. -/
lemma Decides.of_cases {accepted : Prop} {r : Except LeaseError Lease × LeaseTable}
    (htaken : accepted → ∃ t', r = (.ok l, t') ∧ Exchanged gone l t.leases t'.leases)
    (hwrong : l.ip.family ≠ t.family →
      r = (.error (.invalidRequest (.wrongFamily l.ip t.family)), t))
    (hconflict : l.ip.family = t.family → ¬ accepted → ∃ cause, r = (.error (.conflict cause), t)) :
    Decides t l accepted gone r := by
  have hok : ∀ m, r.1 = .ok m → accepted := by
    intro m hm
    by_contra hnot
    by_cases hf : l.ip.family = t.family
    · obtain ⟨cause, rfl⟩ := hconflict hf hnot
      cases hm
    · rw [hwrong hf] at hm
      cases hm
  refine ⟨⟨fun ⟨m, hm⟩ => hok m hm, ?_⟩, ?_, fun hf => by rw [hwrong hf], ?_⟩
  · intro haccepted
    obtain ⟨t', rfl, -⟩ := htaken haccepted
    exact ⟨l, rfl⟩
  · intro m hm
    obtain ⟨t', rfl, hexchanged⟩ := htaken (hok m hm)
    exact ⟨(Except.ok.inj hm).symm, hexchanged⟩
  · intro hf hnot
    obtain ⟨cause, rfl⟩ := hconflict hf hnot
    exact ⟨cause, rfl⟩

lemma checkFamily_of_ne (h : ip.family ≠ t.family) :
    t.checkFamily ip = .error (.invalidRequest (.wrongFamily ip t.family)) :=
  if_neg h

/-- What a table admits, told by a look through its leases. -/
lemma WellFormed.admits_iff_leases (h : t.WellFormed) :
    t.Admits l ↔ (∀ m ∈ t.leases, l.counterpart t.leases ≠ some m → ¬ l.SharesKey m) ∧
      ¬ ∃ m, l.counterpart t.leases = some m ∧ m.isStatic ∧ ¬ l.isStatic := by
  constructor
  · intro hadm
    refine ⟨?_, ?_⟩
    · intro m hm hother hshare
      have hlookup := h.mem_leases_iff.1 hm
      obtain ⟨hip, hhw, -⟩ := hadm hlookup hshare
      exact hother (h.counterpart_eq_some_iff.2 ⟨hip ▸ hlookup, hhw⟩)
    · rintro ⟨m, hm, hstatic, hdynamic⟩
      obtain ⟨hlookup, -⟩ := h.counterpart_eq_some_iff.1 hm
      obtain ⟨-, -, hkept⟩ := hadm hlookup (.inl (h.ip_eq hlookup).symm)
      exact hdynamic (hkept hstatic)
  · rintro ⟨hothers, hstatic⟩ ip m hm hshare
    have hip : m.ip = ip := h.ip_eq hm
    have hmem : m ∈ t.leases := h.mem_leases_iff.2 (hip ▸ hm)
    have hown : l.counterpart t.leases = some m := by
      by_contra hother
      exact hothers m hmem hother hshare
    obtain ⟨-, hmatches, hhw⟩ := Lease.matches_of_counterpart hown
    refine ⟨hip.symm.trans hmatches, hhw, ?_⟩
    intro hm
    by_contra hdynamic
    exact hstatic ⟨m, hown, hm, hdynamic⟩

/-- A lease is inserted where no lease has a key of it. -/
lemma WellFormed.free_iff_leases (h : t.WellFormed) :
    (t.lookup l.ip = none ∧ t.Admits l) ↔ ∀ m ∈ t.leases, ¬ l.SharesKey m := by
  constructor
  · rintro ⟨hfree, hadm⟩ m hm hshare
    have hlookup := h.mem_leases_iff.1 hm
    rw [(hadm hlookup hshare).1, hfree] at hlookup
    cases hlookup
  · intro hfree
    have hnone : ∀ {ip m}, t.lookup ip = some m → ¬ l.SharesKey m := by
      intro ip m hm
      exact hfree m (h.mem_leases_iff.2 (by rwa [h.ip_eq hm]))
    exact ⟨h.lookup_eq_none_of_free hnone, fun hm hshare => (hnone hm hshare).elim⟩

lemma WellFormed.commit_decides (h : t.WellFormed) (l : Lease) :
    Decides t l (l.ip.family = t.family ∧ t.Admits l) (l.counterpart t.leases).toList
      (t.commit l) := by
  apply Decides.of_cases
  · rintro ⟨hfamily, hadm⟩
    exact ⟨_, commit_of_admits h hfamily hadm, h.leases_of_admits hfamily hadm⟩
  · intro hfamily
    simp only [commit, checkFamily_of_ne hfamily]
  · intro hfamily hnot
    rcases put_cases h l with ⟨-, cause, hput⟩ | ⟨hadm, -⟩
    · exact ⟨cause, by simp only [commit, checkFamily_eq_ok_iff.2 hfamily, hput]⟩
    · exact (hnot ⟨hfamily, hadm⟩).elim

lemma WellFormed.insert_decides (h : t.WellFormed) (l : Lease) :
    Decides t l (l.ip.family = t.family ∧ t.lookup l.ip = none ∧ t.Admits l) [] (t.insert l) := by
  apply Decides.of_cases
  · rintro ⟨hfamily, hfree, hadm⟩
    have hexchanged := h.leases_of_admits hfamily hadm
    rw [h.counterpart_eq, hfree] at hexchanged
    exact ⟨_, insert_of_admits h hfamily hfree hadm, hexchanged⟩
  · intro hfamily
    simp only [insert, checkFamily_of_ne hfamily]
  · intro hfamily hnot
    cases hfree : t.lookup l.ip with
    | some held => exact ⟨_, by simp only [insert, checkFamily_eq_ok_iff.2 hfamily, hfree]; rfl⟩
    | none =>
      rcases put_cases h l with ⟨-, cause, hput⟩ | ⟨hadm, -⟩
      · exact ⟨cause, by simp only [insert, checkFamily_eq_ok_iff.2 hfamily, hfree, hput]⟩
      · exact (hnot ⟨hfamily, hfree, hadm⟩).elim

/-- **Exactly the leases that keep all keys apart are accepted.** A lease is committed iff it is of
the family, no other lease than its counterpart has a key of it, and it does not put a dynamic lease
in place of a static one; it is inserted iff no lease at all has a key of it. -/
theorem commit_insert_decided (ht : t.Reachable family) (l : Lease) :
    Decides t l
        (l.ip.family = family ∧
          (∀ m ∈ t.leases, l.counterpart t.leases ≠ some m → ¬ l.SharesKey m) ∧
          ¬ ∃ m, l.counterpart t.leases = some m ∧ m.isStatic ∧ ¬ l.isStatic)
        (l.counterpart t.leases).toList (t.commit l) ∧
      Decides t l (l.ip.family = family ∧ ∀ m ∈ t.leases, ¬ l.SharesKey m) [] (t.insert l) := by
  obtain ⟨h, rfl⟩ := ht.wellFormed
  rw [← h.admits_iff_leases, ← h.free_iff_leases]
  exact ⟨h.commit_decides l, h.insert_decides l⟩

/-- A printer is on the table, and its lease can be committed with another hostname but not inserted
again. -/
theorem exists_commit_insert_decided : ∃ t : LeaseTable, ∃ l m : Lease,
    t.Reachable .v4 ∧ t.leases = [m] ∧ (t.commit l).1 = .ok l ∧ (t.commit l).2.leases.Perm [l] ∧
      ∃ cause, (t.insert l).1 = .error (.conflict cause) := by
  let m : Lease := .static (.v4 (.ofBytes 10 0 0 50)) ⟨[2, 0, 0, 0, 0, 1]⟩ "printer"
  let l : Lease := { m with hostname := "scanner" }
  let t : LeaseTable := (LeaseTable.empty .v4).change (.commit m)
  have ht : t.Reachable .v4 := .change .empty (.commit m)
  obtain ⟨hcommit, hinsert⟩ := commit_insert_decided ht l
  have hok : (t.commit l).1 = .ok l := by
    obtain ⟨l', hl'⟩ := hcommit.ok_iff.2 (by decide +kernel)
    rwa [(hcommit.taken l' hl').1] at hl'
  refine ⟨t, l, m, ht, by decide +kernel, hok, ?_, hinsert.conflict rfl (by decide +kernel)⟩
  have hgone : t.leases.filter (· ∉ (l.counterpart t.leases).toList) = [] := by decide +kernel
  have hleases := (hcommit.taken l hok).2
  rwa [Exchanged, hgone] at hleases

/-! ## Refusals -/

lemma eq_of_refused {t' : LeaseTable} {x : Except LeaseError Lease × LeaseTable} {e : LeaseError}
    (hcases : (∃ e, x = (.error e, t)) ∨ ∃ l, x.1 = .ok l) (hx : x = (.error e, t')) : t' = t := by
  rcases hcases with ⟨e', heq⟩ | ⟨l, heq⟩
  · exact (Prod.mk.inj (hx.symm.trans heq)).2
  · rw [hx] at heq
    cases heq

/-- **A refusal changes nothing.** Whatever is asked of a table with whatever leases, if it is
refused then every index and the reservations are what they were. -/
theorem refused_changes_nothing {e : LeaseError} {t' : LeaseTable} (ht : t.Reachable family) :
    (∀ l, t.commit l = (.error e, t') → t' = t) ∧
    (∀ l, t.insert l = (.error e, t') → t' = t) ∧
    (∀ now client ip d, t.renew now client ip d = (.error e, t') → t' = t) ∧
    (∀ ip client, t.remove ip client = (.error e, t') → t' = t) ∧
    ∀ old new, t.edit old new = (.error e, t') → t' = t := by
  obtain ⟨h, -⟩ := ht.wellFormed
  refine ⟨?_, ?_, ?_, ?_, ?_⟩
  · intro l
    apply eq_of_refused
    rcases commit_cases h l with hrefused | ⟨-, -, heq⟩
    · exact .inl hrefused
    · exact .inr ⟨l, by rw [heq]⟩
  · intro l
    apply eq_of_refused
    rcases insert_cases h l with hrefused | ⟨-, -, -, heq⟩
    · exact .inl hrefused
    · exact .inr ⟨l, by rw [heq]⟩
  · intro now client ip d
    apply eq_of_refused
    rcases renew_cases t now client ip d with hrefused | ⟨l, -, -, -, heq⟩
    · exact .inl hrefused
    · exact .inr ⟨l.renew now d, by rw [heq]⟩
  · intro ip client
    apply eq_of_refused
    rcases remove_cases t ip client with hrefused | ⟨l, -, -, heq⟩
    · exact .inl hrefused
    · exact .inr ⟨l, by rw [heq]⟩
  · intro old new
    apply eq_of_refused
    -- among the refusals is that of the new lease, after which the old one is entered again
    rcases edit_cases h old new with hrefused | ⟨l, -, -, -, -, heq⟩
    · exact .inl hrefused
    · exact .inr ⟨new, by rw [heq]⟩

/-- A printer is to have the hostname of a scanner at its own address, which is refused. -/
theorem exists_refused_changes_nothing : ∃ t t' : LeaseTable, ∃ e : LeaseError,
    ∃ old new other : Lease, t.Reachable .v4 ∧ t.leases = [old, other] ∧ new.ip = old.ip ∧
      lowercase new.hostname = lowercase other.hostname ∧ t.edit old new = (.error e, t') ∧
      t' = t := by
  let old : Lease := .static (.v4 (.ofBytes 10 0 0 50)) ⟨[2, 0, 0, 0, 0, 1]⟩ "printer"
  let other : Lease := .static (.v4 (.ofBytes 10 0 0 51)) ⟨[2, 0, 0, 0, 0, 2]⟩ "scanner"
  let new : Lease := { old with hostname := "Scanner" }
  let t : LeaseTable := ((empty .v4).change (.commit old)).change (.commit other)
  have ht : t.Reachable .v4 := .change (.change .empty _) _
  have hrefused : (t.edit old new).1 = .error (.conflict (.hostnameUsed "Scanner" other.ip)) := by
    decide +kernel
  have hedit : t.edit old new = (.error (.conflict (.hostnameUsed "Scanner" other.ip)),
      (t.edit old new).2) := Prod.ext hrefused rfl
  exact ⟨t, _, _, old, new, other, ht, by decide +kernel, rfl, by decide +kernel, hedit,
    (refused_changes_nothing ht).2.2.2.2 old new hedit⟩

end LeaseTable

end DhcpLeasing
