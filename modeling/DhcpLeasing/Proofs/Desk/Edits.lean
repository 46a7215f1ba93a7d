import DhcpLeasing.Proofs.Desk
import DhcpLeasing.Proofs.LeaseTable.Exchange

/-!
# What an edit does to the leases

An edit takes a lease out and offers another one in its place. What makes room for the new one is a
rule that is meant for renewals: the lease of the same client for the same address goes, whichever
it is.

* `Lease.EditOutcome` says what becomes of the leases, those of a table or those of an interface;
* an edit exchanges one lease for one, unless a third lease is of the client and the address of the
  new one. That lease is lost as well.
-/

namespace DhcpLeasing

open Text

variable {l m old new previous : Lease} {ls ls' before after gone : List Lease}
  {r : Except LeaseError Lease}

namespace Lease

/-- Whether a lease keeps another one out: they share a key, and the other one would not just renew
it. -/
def Blocks (m l : Lease) : Prop :=
  l.SharesKey m ∧ ¬ (m.Matches l ∧ (m.isStatic → l.isStatic))

/-- What becomes of the leases `ls` when one of them is edited. -/
structure EditOutcome (old new : Lease) (ls ls' : List Lease) (r : Except LeaseError Lease) :
    Prop where
  /-- The old lease goes, and with it the one of the client and the address of the new one. -/
  replaced : ∀ l, r = .ok l → l = new ∧ ∃ previous, old.counterpart ls = some previous ∧
    Exchanged (previous :: (new.counterpart ls).toList) new ls ls'
  /-- The old lease goes alone if the latter is none or the same. -/
  alone : ∀ l, r = .ok l → (∀ m, new.counterpart ls = some m → old.counterpart ls = some m) →
    ∃ previous, old.counterpart ls = some previous ∧ Exchanged [previous] new ls ls' ∧
      ls'.length = ls.length
  /-- A lease that another one keeps out is refused. -/
  blocked : ∀ previous, old.counterpart ls = some previous → ∀ m ∈ ls, m ≠ previous →
    m.family = new.family → m.Blocks new → ∃ cause, r = .error (.conflict cause)
  /-- Every other one is accepted. -/
  admitted : ∀ previous, old.counterpart ls = some previous → previous.family = new.family →
    (∀ m ∈ ls, m ≠ previous → m.family = new.family → ¬ m.Blocks new) → r = .ok new
  unchanged : ∀ e, r = .error e → ls' = ls

/-! ## Leases among others -/

lemma counterpart_append (hbefore : ∀ m ∈ before, m.family ≠ l.family)
    (hafter : ∀ m ∈ after, m.family ≠ l.family) :
    l.counterpart (before ++ ls ++ after) = l.counterpart ls := by
  have hnone : ∀ {ms : List Lease}, (∀ m ∈ ms, m.family ≠ l.family) → l.counterpart ms = none := by
    intro ms hms
    apply List.find?_eq_none.2
    intro m hm hmatches
    have hip : m.ip = l.ip := (of_decide_eq_true hmatches).1
    exact hms m hm (congrArg IpAddr.family hip)
  have hbefore' : before.find? (·.Matches l) = none := hnone hbefore
  have hafter' : after.find? (·.Matches l) = none := hnone hafter
  rw [counterpart, List.find?_append, List.find?_append, hbefore', hafter', Option.none_or,
    Option.or_none, counterpart]

end Lease

/-- An exchange in one family leaves the other one alone. -/
lemma Exchanged.among {f : Family} (h : Exchanged gone l ls ls') (hgone : ∀ m ∈ gone, m.family = f)
    (hbefore : ∀ m ∈ before, m.family ≠ f) (hafter : ∀ m ∈ after, m.family ≠ f) :
    Exchanged gone l (before ++ ls ++ after) (before ++ ls' ++ after) := by
  have hkept : ∀ {ms : List Lease}, (∀ m ∈ ms, m.family ≠ f) → ms.filter (· ∉ gone) = ms := by
    intro ms hms
    apply List.filter_eq_self.2
    intro m hm
    apply decide_eq_true
    intro hmgone
    exact hms m hm (hgone m hmgone)
  rw [Exchanged, List.filter_append, List.filter_append, hkept hbefore, hkept hafter]
  have hleases := (List.Perm.append_left before h).append_right after
  exact hleases.trans (List.perm_middle.append_right after)

/-- What becomes of leases is what becomes of those of the same family. -/
lemma Lease.EditOutcome.among (h : old.EditOutcome new ls ls' r) (hfamily : old.family = new.family)
    (hbefore : ∀ m ∈ before, m.family ≠ new.family) (hafter : ∀ m ∈ after, m.family ≠ new.family) :
    old.EditOutcome new (before ++ ls ++ after) (before ++ ls' ++ after) r := by
  have hnew : new.counterpart (before ++ ls ++ after) = new.counterpart ls :=
    counterpart_append hbefore hafter
  have hold : old.counterpart (before ++ ls ++ after) = old.counterpart ls := by
    rw [← hfamily] at hbefore hafter
    exact counterpart_append hbefore hafter
  have hprevfamily : ∀ {previous}, old.counterpart ls = some previous →
      previous.family = new.family := by
    intro previous hprevious
    have hip := (matches_of_counterpart hprevious).2.1
    exact (congrArg IpAddr.family hip).trans hfamily
  have hinside : ∀ m ∈ before ++ ls ++ after, m.family = new.family → m ∈ ls := by
    intro m hm hmfamily
    simp only [List.mem_append] at hm
    rcases hm with (hm | hm) | hm
    · exact absurd hmfamily (hbefore m hm)
    · exact hm
    · exact absurd hmfamily (hafter m hm)
  rw [← hold] at hprevfamily
  refine ⟨?_, ?_, ?_, ?_, ?_⟩
  · intro l hl
    obtain ⟨rfl, previous, hprevious, hexchanged⟩ := h.replaced l hl
    rw [← hold] at hprevious
    rw [← hnew] at hexchanged
    refine ⟨rfl, previous, hprevious, hexchanged.among ?_ hbefore hafter⟩
    intro m hm
    rcases List.mem_cons.1 hm with rfl | hm
    · exact hprevfamily hprevious
    · have hip := (matches_of_counterpart (Option.mem_toList.1 hm)).2.1
      exact congrArg IpAddr.family hip
  · intro l hl hsame
    rw [hold, hnew] at hsame
    obtain ⟨previous, hprevious, hexchanged, hlength⟩ := h.alone l hl hsame
    rw [← hold] at hprevious
    refine ⟨previous, hprevious, hexchanged.among ?_ hbefore hafter, ?_⟩
    · intro m hm
      rw [List.mem_singleton.1 hm]
      exact hprevfamily hprevious
    · simp only [List.length_append, hlength]
  · intro previous hprevious m hm hne hmfamily hblocks
    rw [hold] at hprevious
    exact h.blocked previous hprevious m (hinside m hm hmfamily) hne hmfamily hblocks
  · intro previous hprevious hpfamily hothers
    rw [hold] at hprevious
    refine h.admitted previous hprevious hpfamily ?_
    intro m hm
    exact hothers m (List.mem_append_left after (List.mem_append_right before hm))
  · intro e he
    rw [h.unchanged e he]

namespace LeaseTable

variable {t : LeaseTable} {family : Family}

/-! ## Edits of a table -/

lemma WellFormed.admits_iff_forall (h : t.WellFormed) :
    t.Admits l ↔ ∀ m ∈ t.leases, ¬ m.Blocks l := by
  constructor
  · intro hadm m hm hblocks
    obtain ⟨hshare, hnot⟩ := hblocks
    obtain ⟨hip, hhw, hstatic⟩ := hadm (h.mem_leases_iff.1 hm) hshare
    exact hnot ⟨⟨hip, hhw⟩, hstatic⟩
  · intro hnone ip m hm hshare
    have hip : m.ip = ip := h.ip_eq hm
    have hmem : m ∈ t.leases := h.mem_leases_iff.2 (by rwa [hip])
    have hmatches : m.Matches l ∧ (m.isStatic → l.isStatic) := by
      by_contra hnot
      exact hnone m hmem ⟨hshare, hnot⟩
    exact ⟨hip.symm.trans hmatches.1.1, hmatches.1.2, hmatches.2⟩

lemma WellFormed.admits_strike_iff (h : t.WellFormed)
    (hprevious : old.counterpart t.leases = some previous) :
    (t.strike old.ip).Admits new ↔ ∀ m ∈ t.leases, m ≠ previous → ¬ m.Blocks new := by
  obtain ⟨hlookup, -⟩ := h.counterpart_eq_some_iff.1 hprevious
  rw [(h.strike old.ip).admits_iff_forall, h.leases_strike_of_lookup hlookup]
  simp only [List.mem_filter, decide_eq_true_eq, and_imp]

/-- An edit of a lease that is there is refused iff another lease keeps the new one out. -/
lemma WellFormed.edit_of_counterpart (h : t.WellFormed) (hfamily : new.family = t.family)
    (hprevious : old.counterpart t.leases = some previous) :
    ((∃ m ∈ t.leases, m ≠ previous ∧ m.Blocks new) ∧
        ∃ cause, t.edit old new = (.error (.conflict cause), t)) ∨
      (∀ m ∈ t.leases, m ≠ previous → ¬ m.Blocks new) ∧
        t.edit old new = (.ok new, ((t.strike old.ip).strike new.ip).enter new) := by
  obtain ⟨hlookup, hhw⟩ := h.counterpart_eq_some_iff.1 hprevious
  have hfind : t.find old.ip old.hwAddr = .ok previous := find_eq_ok_iff.2 ⟨hlookup, hhw⟩
  rcases put_cases (h.strike old.ip) new with ⟨hnot, cause, hput⟩ | ⟨hadm, hput⟩
  · refine .inl ⟨?_, cause, ?_⟩
    · rw [h.admits_strike_iff hprevious] at hnot
      push Not at hnot
      exact hnot
    · -- the old lease is entered again, which undoes that it was struck
      simp only [edit, checkFamily_eq_ok_iff.2 hfamily, hfind, hput, h.enter_strike hlookup]
  · refine .inr ⟨(h.admits_strike_iff hprevious).1 hadm, ?_⟩
    simp only [edit, checkFamily_eq_ok_iff.2 hfamily, hfind, hput]

/-- What goes when an edit is accepted. -/
lemma WellFormed.leases_edit (h : t.WellFormed) (hfamily : new.family = t.family)
    (hprevious : old.counterpart t.leases = some previous)
    (hothers : ∀ m ∈ t.leases, m ≠ previous → ¬ m.Blocks new) :
    Exchanged (previous :: (new.counterpart t.leases).toList) new t.leases
      (((t.strike old.ip).strike new.ip).enter new).leases := by
  have hwf : (t.strike old.ip).WellFormed := h.strike old.ip
  have hlookup := (h.counterpart_eq_some_iff.1 hprevious).1
  have hstruck := h.leases_strike_of_lookup hlookup
  have hexchanged := hwf.leases_of_admits (by rwa [family_strike])
    ((h.admits_strike_iff hprevious).2 hothers)
  -- among the leases that are left, the new one has the counterpart that it had among all
  have hgone : ∀ m ∈ t.leases,
      (m ∉ (new.counterpart (t.strike old.ip).leases).toList ∧ m ≠ previous ↔
        m ∉ previous :: (new.counterpart t.leases).toList) := by
    intro m hm
    have hmem : m ∈ (t.strike old.ip).leases ↔ m ≠ previous := by simp [hstruck, hm]
    rw [List.mem_cons, Option.mem_toList, Option.mem_toList, not_or, and_comm]
    refine and_congr_right fun hne => not_congr ?_
    have hlookup := hwf.mem_leases_iff.1 (hmem.2 hne)
    have hlookup' := h.mem_leases_iff.1 hm
    rw [hwf.counterpart_eq_some_iff, h.counterpart_eq_some_iff]
    constructor
    · rintro ⟨hnew, hhw⟩
      exact ⟨by rwa [← hwf.ip_eq hnew], hhw⟩
    · rintro ⟨hnew, hhw⟩
      exact ⟨by rwa [← h.ip_eq hnew], hhw⟩
  rw [hstruck] at hgone hexchanged
  rw [Exchanged, List.filter_filter] at hexchanged
  rw [Exchanged]
  convert hexchanged using 2
  apply List.filter_congr
  intro m hm
  rw [← Bool.decide_and]
  exact decide_eq_decide.2 (hgone m hm).symm

lemma WellFormed.edit_outcome (h : t.WellFormed) (old new : Lease) :
    old.EditOutcome new t.leases (t.edit old new).2.leases (t.edit old new).1 := by
  have hreplaced : ∀ l, (t.edit old new).1 = .ok l →
      l = new ∧ ∃ previous, old.counterpart t.leases = some previous ∧
        Exchanged (previous :: (new.counterpart t.leases).toList) new t.leases
          (t.edit old new).2.leases := by
    intro l hl
    rcases edit_cases h old new with ⟨e, heq⟩ | ⟨previous, hlookup, hhw, hfamily, hadm, heq⟩
    · rw [heq] at hl
      cases hl
    · have hprevious := h.counterpart_eq_some_iff.2 ⟨hlookup, hhw⟩
      have hothers := (h.admits_strike_iff hprevious).1 hadm
      rw [heq] at hl ⊢
      exact ⟨(Except.ok.inj hl).symm, previous, hprevious, h.leases_edit hfamily hprevious hothers⟩
  refine ⟨hreplaced, ?_, ?_, ?_, ?_⟩
  · intro l hl hsame
    obtain ⟨rfl, previous, hprevious, hexchanged⟩ := hreplaced l hl
    have halone : Exchanged [previous] l t.leases (t.edit old l).2.leases := by
      cases hnew : l.counterpart t.leases with
      | none => rwa [hnew] at hexchanged
      | some m =>
        obtain rfl : previous = m := Option.some.inj (hprevious.symm.trans (hsame m hnew))
        simpa [Exchanged, hnew] using hexchanged
    have hmem := (Lease.matches_of_counterpart hprevious).1
    exact ⟨previous, hprevious, halone, halone.length_eq h.nodup_leases hmem⟩
  · intro previous hprevious m hm hne hmfamily hblocks
    have hfamily : new.family = t.family :=
      hmfamily.symm.trans (h.family_eq (h.mem_leases_iff.1 hm))
    rcases h.edit_of_counterpart hfamily hprevious with ⟨-, cause, heq⟩ | ⟨hothers, -⟩
    · exact ⟨cause, by rw [heq]⟩
    · exact absurd hblocks (hothers m hm hne)
  · intro previous hprevious hpfamily hothers
    have hmem := (Lease.matches_of_counterpart hprevious).1
    have hfamily : ∀ m ∈ t.leases, m.family = t.family := by
      intro m hm
      exact h.family_eq (h.mem_leases_iff.1 hm)
    have hnew : new.family = t.family := hpfamily.symm.trans (hfamily previous hmem)
    rcases h.edit_of_counterpart hnew hprevious with ⟨⟨m, hm, hne, hblocks⟩, -⟩ | ⟨-, heq⟩
    · exact absurd hblocks (hothers m hm hne ((hfamily m hm).trans hnew.symm))
    · rw [heq]
  · intro e he
    rcases edit_cases h old new with ⟨e', heq⟩ | ⟨previous, -, -, -, -, heq⟩
    · rw [heq]
    · rw [heq] at he
      cases he

end LeaseTable

namespace Interface

variable {i : Interface}

/-! ## Edits of an interface -/

lemma adminScope_error {ip : IpAddr} {e : LeaseError} (h : i.adminScope ip = .error e) :
    ∃ fault, e = .invalidRequest fault := by
  unfold adminScope at h
  cases hs : i.scope? ip.family with
  | none =>
    rw [hs] at h
    exact ⟨_, (Except.error.inj h).symm⟩
  | some s =>
    rw [hs] at h
    cases h

/-- A lease that does not pass the checks is refused as it stands. -/
lemma normalizeLease_error {e : LeaseError} (h : i.normalizeLease l = .error e) :
    ∃ fault, e = .invalidRequest fault := by
  simp only [normalizeLease, bind_eq_error_iff, mapError_eq_error_iff] at h
  rcases h with h | ⟨s, -, ⟨fault, -, rfl⟩ | ⟨-, -, ⟨fault, -, rfl⟩ | ⟨hostname, -, h⟩⟩⟩
  · exact adminScope_error h
  · exact ⟨_, rfl⟩
  · exact ⟨_, rfl⟩
  · -- what is left is the check of the address, which depends on the kind of the lease
    split at h
    all_goals
      simp only [bind_eq_error_iff, mapError_eq_error_iff] at h
      rcases h with ⟨fault, -, rfl⟩ | ⟨-, -, h⟩
      · exact ⟨_, rfl⟩
      · cases h

lemma editLease_of_normalizeLease (h : i.Sound) (hfamily : old.family = new.family)
    (hl : i.normalizeLease new = .ok m) :
    old.EditOutcome m i.leases (i.editLease old new).2.leases (i.editLease old new).1 := by
  obtain ⟨hip, s, hs, -⟩ := normalizeLease_eq_ok h hl
  have hmfamily : m.family = new.family := congrArg IpAddr.family hip
  obtain ⟨before, after, hbefore, hafter, hleases⟩ := h.leases_split hs
  have hsame := hleases s
  rw [setScope_of_scope? hs] at hsame
  have hscope : i.adminScope m.ip = .ok s := adminScope_eq_ok_iff.2 (by rwa [hip])
  have hedit : i.editLease old new = ((s.table.edit old m).1,
      i.setScope { s with table := (s.table.edit old m).2 } m.ip.family) := by
    simp only [editLease, changeTable, hfamily, ne_eq, not_true_eq_false, if_false, hl, hscope]
  have houtcome := (h.scope hs).table.edit_outcome old m
  rw [hedit, hsame, hip, hleases]
  rw [← Lease.family, ← hmfamily] at hbefore hafter
  exact houtcome.among (hfamily.trans hmfamily.symm) hbefore hafter

end Interface

namespace Desk

/-- **An edit exchanges the leases that it has to.** Whatever has happened to a table, or to an
interface of any configuration, an edit that is accepted takes the old lease out and puts the new
one in. All others stay as they are, except for one of the same client for the same address as the
new lease. Any other one that shares a key with the new lease has the edit refused. On an interface
the new lease is the one that has passed its checks, and nothing happens if it does not. -/
theorem edit_exchanges_leases {family : Family} {t : LeaseTable} {name : String}
    {c : InterfaceConfig} {probeTimeout : ℕ} {d : Desk} (ht : t.Reachable family)
    (hd : Reachable (.ofConfig name c probeTimeout) d) (old new : Lease) :
    old.EditOutcome new t.leases (t.edit old new).2.leases (t.edit old new).1 ∧
      (∀ m, old.family = new.family → d.interface.normalizeLease new = .ok m →
        old.EditOutcome m d.interface.leases (d.interface.editLease old new).2.leases
          (d.interface.editLease old new).1) ∧
      ((old.family ≠ new.family ∨ ∀ m, d.interface.normalizeLease new ≠ .ok m) →
        ∃ fault, d.interface.editLease old new = (.error (.invalidRequest fault), d.interface)) := by
  have h : d.interface.Sound := hd.sound.1.interface
  refine ⟨ht.wellFormed.1.edit_outcome old new, ?_, ?_⟩
  · intro m hfamily hm
    exact Interface.editLease_of_normalizeLease h hfamily hm
  · intro hrefused
    unfold Interface.editLease
    split
    · exact ⟨_, rfl⟩
    · next hfamily =>
      cases hm : d.interface.normalizeLease new with
      | ok m => exact absurd hm ((hrefused.resolve_left hfamily) m)
      | error e =>
        obtain ⟨fault, rfl⟩ := Interface.normalizeLease_error hm
        exact ⟨fault, rfl⟩

/-- A printer is renamed, on a table beside a scanner, and alone on an interface of the default
configuration, which writes the new name in lowercase. -/
theorem exists_edit_exchanges_leases : ∃ t : LeaseTable, ∃ d, ∃ old other new m : Lease,
    t.Reachable .v4 ∧ t.leases = [old, other] ∧
      Reachable (.ofConfig "eth0" ⟨some .default, some .default⟩ 1000) d ∧
      d.interface.leases = [old] ∧ d.interface.normalizeLease new = .ok m ∧
      (t.edit old new).1 = .ok new ∧ (t.edit old new).2.leases.Perm [new, other] ∧
      (d.interface.editLease old new).1 = .ok m ∧
      (d.interface.editLease old new).2.leases.Perm [m] := by
  let old : Lease := .static (.v4 (.ofBytes 192 168 1 50)) ⟨[2, 0, 0, 0, 0, 1]⟩ "printer"
  let other : Lease := .static (.v4 (.ofBytes 192 168 1 51)) ⟨[2, 0, 0, 0, 0, 2]⟩ "scanner"
  let new : Lease := { old with hostname := "Plotter" }
  let m : Lease := { old with hostname := "plotter" }
  let t : LeaseTable := ((LeaseTable.empty .v4).change (.commit old)).change (.commit other)
  let i : Interface := .ofConfig "eth0" ⟨some .default, some .default⟩ 1000
  let d : Desk := ⟨(i.submit 0 (.addLease old)).2, []⟩
  have ht : t.Reachable .v4 := .change (.change .empty _) _
  have hd : Reachable i d := .single (.command 0 (by simp) i [] trivial)
  have hm : d.interface.normalizeLease new = .ok m := by decide +kernel
  obtain ⟨htable, hinterface, -⟩ := edit_exchanges_leases ht hd old new
  refine ⟨t, d, old, other, new, m, ht, by decide +kernel, hd, by decide +kernel, hm, ?_⟩
  have hok : (t.edit old new).1 = .ok new := by decide +kernel
  have hok' : (d.interface.editLease old new).1 = .ok m := by decide +kernel
  have hleases : (t.edit old new).2.leases.Perm [new, other] := by
    obtain ⟨-, previous, hprevious, hexchanged⟩ := htable.replaced new hok
    obtain rfl : previous = old := Option.some.inj (hprevious.symm.trans (by decide +kernel))
    have hkept : t.leases.filter (· ∉ old :: (new.counterpart t.leases).toList) = [other] := by
      decide +kernel
    rwa [Exchanged, hkept] at hexchanged
  have hleases' : (d.interface.editLease old new).2.leases.Perm [m] := by
    obtain ⟨-, previous, hprevious, hexchanged⟩ := (hinterface m rfl hm).replaced m hok'
    obtain rfl : previous = old := Option.some.inj (hprevious.symm.trans (by decide +kernel))
    have hkept : d.interface.leases.filter
        (· ∉ old :: (m.counterpart d.interface.leases).toList) = [] := by
      decide +kernel
    rwa [Exchanged, hkept] at hexchanged
  exact ⟨hok, hleases, hok', hleases'⟩

/-- The lease of a scanner is lost when that of a printer is given the scanner's client and
address: the edit is accepted, and takes both out. -/
theorem edit_overwrites : ∃ t : LeaseTable, ∃ old other new : Lease,
    t.Reachable .v4 ∧ t.leases = [old, other] ∧ new.SharesKey other ∧
      (t.edit old new).1 = .ok new ∧ (t.edit old new).2.leases = [new] := by
  let old : Lease := .static (.v4 (.ofBytes 10 0 0 50)) ⟨[2, 0, 0, 0, 0, 1]⟩ "printer"
  let other : Lease := .static (.v4 (.ofBytes 10 0 0 51)) ⟨[2, 0, 0, 0, 0, 2]⟩ "scanner"
  let new : Lease := { other with hostname := "printer" }
  let t : LeaseTable := ((LeaseTable.empty .v4).change (.commit old)).change (.commit other)
  have ht : t.Reachable .v4 := .change (.change .empty _) _
  exact ⟨t, old, other, new, ht, by decide +kernel⟩

end Desk

end DhcpLeasing
