import DhcpLeasing.Proofs.Desk.Edits
import DhcpLeasing.Proofs.Service.Restoring

/-!
# Which entries of a lease file are restored

A lease file may have been written by anybody: with entries for interfaces that are not there,
expired or invalid ones, duplicates, and leases that are in each other's way. A service that starts
goes through it from the first entry to the last and takes whatever an operator could add:

* `Service.restorable` is what an entry comes to by itself, `StoredLease.Clashes` says which entries
  keep others out, and `Service.admitted` are the entries that are left;
* `Service.start_admits` says that a service starts with exactly these.
-/

namespace DhcpLeasing

/-- Whether two entries cannot both be restored: they are for one interface and one family, and
their leases share a key. -/
def StoredLease.Clashes (a b : StoredLease) : Prop :=
  a.interface = b.interface ∧ a.lease.family = b.lease.family ∧ a.lease.SharesKey b.lease

instance (a b : StoredLease) : Decidable (a.Clashes b) :=
  inferInstanceAs (Decidable (_ ∧ _ ∧ _))

namespace Interface

variable {i i' : Interface} {l m : Lease}

/-- What passes the checks depends on the configuration only. -/
lemma normalizeLease_emptied (i : Interface) (l : Lease) :
    i.emptied.normalizeLease l = i.normalizeLease l := by
  simp only [normalizeLease, adminScope, emptied, scope?_mapScopes]
  cases i.scope? l.ip.family <;> rfl

lemma normalizeLease_of_emptied (h : i'.emptied = i.emptied) (l : Lease) :
    i'.normalizeLease l = i.normalizeLease l := by
  rw [← normalizeLease_emptied, h, normalizeLease_emptied]

/-- An operator's lease that has passed the checks is added, unless a lease of its family has a key
of it. -/
lemma Sound.addLease_cases (h : i.Sound) (hl : i.normalizeLease l = .ok m) :
    (∃ x ∈ i.leases, m.family = x.family ∧ m.SharesKey x) ∧ (∃ e, (i.addLease l).1 = .error e) ∨
      (¬ ∃ x ∈ i.leases, m.family = x.family ∧ m.SharesKey x) ∧
        ∃ i', i.addLease l = (.ok m, i') ∧ i'.leases.Perm (m :: i.leases) := by
  obtain ⟨hip, s, hs, -⟩ := normalizeLease_eq_ok h hl
  rw [← hip] at hs
  obtain ⟨before, after, hbefore, hafter, hleases⟩ := h.leases_split hs
  have hsame : i.leases = before ++ s.table.leases ++ after := by
    rw [← hleases, setScope_of_scope? hs]
  have hadd : i.addLease l = ((s.table.insert m).1,
      i.setScope { s with table := (s.table.insert m).2 } m.ip.family) := by
    simp only [addLease, hl, changeTable, adminScope_eq_ok_iff.2 hs]
  have htable := (h.scope hs).table
  have hfamily : m.ip.family = s.table.family := by
    rw [(h.scope hs).family, h.family hs]
  have hdecides := htable.insert_decides m
  by_cases hshare : ∃ x ∈ i.leases, m.family = x.family ∧ m.SharesKey x
  · refine .inl ⟨hshare, ?_⟩
    obtain ⟨x, hx, hxfamily, hshare⟩ := hshare
    -- the leases of the family are those of the table
    have hmem : x ∈ s.table.leases := by
      rw [hsame, List.mem_append, List.mem_append] at hx
      rcases hx with (hx | hx) | hx
      · exact absurd hxfamily.symm (hbefore x hx)
      · exact hx
      · exact absurd hxfamily.symm (hafter x hx)
    have hnot : ¬ (m.ip.family = s.table.family ∧ s.table.lookup m.ip = none ∧
        s.table.Admits m) := by
      rintro ⟨-, hfree⟩
      exact htable.free_iff_leases.1 hfree x hmem hshare
    obtain ⟨cause, hcause⟩ := hdecides.conflict hfamily hnot
    exact ⟨_, by rw [hadd, hcause]⟩
  · refine .inr ⟨hshare, ?_⟩
    have hfree : ∀ x ∈ s.table.leases, ¬ m.SharesKey x := by
      intro x hx hkey
      refine hshare ⟨x, ?_, (h.family_of_mem hs hx).symm, hkey⟩
      rw [hsame]
      exact List.mem_append_left after (List.mem_append_right before hx)
    obtain ⟨m', hok⟩ := hdecides.ok_iff.2 ⟨hfamily, htable.free_iff_leases.2 hfree⟩
    obtain ⟨rfl, hexchanged⟩ := hdecides.taken m' hok
    refine ⟨_, by rw [hadd, hok], ?_⟩
    have hgone : ∀ x ∈ ([] : List Lease), x.family = m'.ip.family := by simp
    have hall := hexchanged.among hgone hbefore hafter
    rw [← hsame, Exchanged] at hall
    rw [hleases]
    simpa using hall

end Interface

namespace Service

variable {c : Config} {disk : Disk} {time : Timestamp} {now : ℕ} {e entry : StoredLease}
  {es taken : List StoredLease} {state : ℕ × SortedMap String Interface}

/-! ## The entries that are left -/

/-- What an entry is restored as if no other one keeps it out: its interface has to be there, its
lease must not have expired, and it has to pass the checks for an operator's lease, which put it
into its normal form. -/
def restorable (c : Config) (time : Timestamp) (e : StoredLease) : Option StoredLease :=
  if e.lease.isExpiredAt time then none
  else
    ((interfacesOf c).get? e.interface).bind fun i =>
      (i.normalizeLease e.lease).toOption.map (⟨e.interface, ·⟩)

/-- The entries that are taken once one more has been looked at. -/
def admitNext (c : Config) (time : Timestamp) (taken : List StoredLease) (e : StoredLease) :
    List StoredLease :=
  match restorable c time e with
  | none => taken
  | some entry => if ∃ other ∈ taken, entry.Clashes other then taken else taken ++ [entry]

/-- The entries that are taken out of many: each one that none of those taken before keeps out. -/
def admitted (c : Config) (time : Timestamp) (es : List StoredLease) : List StoredLease :=
  es.foldl (admitNext c time) []

lemma restorable_eq_some_iff :
    restorable c time e = some entry ↔ e.lease.isExpiredAt time = false ∧
      ∃ i m, (interfacesOf c).get? e.interface = some i ∧ i.normalizeLease e.lease = .ok m ∧
        entry = ⟨e.interface, m⟩ := by
  unfold restorable
  cases e.lease.isExpiredAt time with
  | true => simp
  | false =>
    cases hi : (interfacesOf c).get? e.interface with
    | none => simp
    | some i =>
      cases hm : i.normalizeLease e.lease with
      | error fault => simp [hm, Except.toOption]
      | ok m => simp [hm, Except.toOption, eq_comm]

lemma admitted_append (c : Config) (time : Timestamp) (es : List StoredLease) (e : StoredLease) :
    admitted c time (es ++ [e]) = admitNext c time (admitted c time es) e := by
  rw [admitted, List.foldl_append]
  rfl

lemma mem_admitNext_iff : entry ∈ admitNext c time taken e ↔
    entry ∈ taken ∨ restorable c time e = some entry ∧ ∀ other ∈ taken, ¬ entry.Clashes other := by
  unfold admitNext
  cases hrestorable : restorable c time e with
  | none => simp
  | some entry' =>
    simp only [Option.some.injEq]
    split
    · next hclash =>
      constructor
      · exact .inl
      · rintro (hmem | ⟨rfl, hfree⟩)
        · exact hmem
        · obtain ⟨other, hother, hclash⟩ := hclash
          exact absurd hclash (hfree other hother)
    · next hfree =>
      rw [List.mem_append, List.mem_singleton]
      push Not at hfree
      constructor
      · rintro (hmem | rfl)
        · exact .inl hmem
        · exact .inr ⟨rfl, hfree⟩
      · rintro (hmem | ⟨rfl, -⟩)
        · exact .inl hmem
        · exact .inr rfl

/-- An entry is taken iff it is what one of the entries comes to that none of those taken before
keeps out. -/
lemma mem_admitted_iff : entry ∈ admitted c time es ↔
    ∃ before e after, es = before ++ e :: after ∧ restorable c time e = some entry ∧
      ∀ other ∈ admitted c time before, ¬ entry.Clashes other := by
  -- by induction on the entries from the end, where the one that is looked at last is
  induction es using List.reverseRecOn with
  | nil => simp [admitted]
  | append_singleton es e ih =>
    rw [admitted_append, mem_admitNext_iff, ih]
    constructor
    · rintro (⟨before, e', after, rfl, hentry⟩ | hentry)
      · exact ⟨before, e', after ++ [e], by simp, hentry⟩
      · exact ⟨es, e, [], rfl, hentry⟩
    · rintro ⟨before, e', after, heq, hentry⟩
      rcases List.eq_nil_or_concat after with rfl | ⟨after, last, rfl⟩
      · obtain ⟨rfl, hlast⟩ := List.append_inj' heq rfl
        obtain rfl := List.singleton_injective hlast
        exact .inr hentry
      · rw [List.concat_eq_append, ← List.cons_append, ← List.append_assoc] at heq
        obtain ⟨rfl, -⟩ := List.append_inj' heq rfl
        exact .inl ⟨before, e', after, rfl, hentry⟩

/-! ## Restoring entries -/

/-- A service whose interfaces have been restored as far as is given, and that has done nothing
else. -/
def begun (c : Config) (disk : Disk) (interfaces : SortedMap String Interface) : Service :=
  ⟨c, interfaces, disk, false, none, none⟩

/-- What it means that the entries that are taken, and no others, have been restored. -/
structure Restored (c : Config) (disk : Disk) (taken : List StoredLease)
    (state : ℕ × SortedMap String Interface) : Prop where
  count : state.1 = taken.length
  moved : Moved (begun c disk (interfacesOf c)) (begun c disk state.2) [] []
  entries : (begun c disk state.2).entries.Perm taken

/-- An entry is kept out by one that has been taken iff its lease is by one of the interface. -/
lemma exists_clash_iff {s : Service} {name : String} {i : Interface} {m : Lease}
    (hentries : s.entries.Perm taken) (hi : s.interfaces.get? name = some i) :
    (∃ other ∈ taken, StoredLease.Clashes ⟨name, m⟩ other) ↔
      ∃ x ∈ i.leases, m.family = x.family ∧ m.SharesKey x := by
  constructor
  · rintro ⟨⟨name', x⟩, hother, rfl, hshare⟩
    obtain ⟨j, hj, hx⟩ := mem_entries_iff.1 (hentries.mem_iff.2 hother)
    obtain rfl := Option.some.inj (hi.symm.trans hj)
    exact ⟨x, hx, hshare⟩
  · rintro ⟨x, hx, hshare⟩
    exact ⟨⟨name, x⟩, hentries.mem_iff.1 (mem_entries_iff.2 ⟨i, hi, hx⟩), rfl, hshare⟩

/-- With one more lease on an interface there is one more entry. -/
lemma entries_setInterface_perm {s : Service} {name : String} {i i' : Interface} {m : Lease}
    {w : List (SiteKey × Pending)} (h : s.Tracked w) (h' : (s.setInterface name i').Tracked w)
    (hi : s.interfaces.get? name = some i) (hleases : i'.leases.Perm (m :: i.leases))
    (hnew : m ∉ i.leases) : (s.setInterface name i').entries.Perm (s.entries ++ [⟨name, m⟩]) := by
  have hfresh : StoredLease.mk name m ∉ s.entries := by
    intro hmem
    obtain ⟨j, hj, hm⟩ := mem_entries_iff.1 hmem
    obtain rfl := Option.some.inj (hi.symm.trans hj)
    exact hnew hm
  have hnodup : (s.entries ++ [StoredLease.mk name m]).Nodup :=
    (nodup_entries h).append (List.nodup_singleton _) (List.disjoint_singleton.2 hfresh)
  apply (List.perm_ext_iff_of_nodup (nodup_entries h') hnodup).2
  rintro ⟨name', x⟩
  rw [mem_entries_iff, List.mem_append, mem_entries_iff, List.mem_singleton, setInterface,
    SortedMap.get?_insert]
  by_cases hname : name' = name
  · subst hname
    simp [hi, hleases.mem_iff, or_comm]
  · simp [hname]

namespace Restored

/-- Before the first entry nothing has been taken. -/
lemma interfacesOf (c : Config) (disk : Disk) :
    Restored c disk [] (0, Service.interfacesOf c) := by
  refine ⟨rfl, .of_interfaces rfl rfl [], ?_⟩
  have hempty : (begun c disk (Service.interfacesOf c)).entries = [] := by
    rw [List.eq_nil_iff_forall_not_mem]
    intro e he
    obtain ⟨i, hi, hl⟩ := mem_entries_iff.1 he
    obtain ⟨ic, -, rfl⟩ := eq_ofConfig_of_interfacesOf hi
    have hsound := Interface.Sound.ofConfig e.interface ic c.probeTimeoutMillis.toNat
    obtain ⟨scope, hs, hlookup⟩ := hsound.exists_scope hl
    rw [← Interface.leaseByIp_of_scope? hs, Interface.leaseByIp_ofConfig] at hlookup
    cases hlookup
  rw [hempty]

/-- An interface that has been restored in part is there, and makes the checks that it is configured
with. -/
lemma exists_interface {name : String} {i₀ : Interface} (hr : Restored c disk taken state)
    (hi₀ : (Service.interfacesOf c).get? name = some i₀) :
    ∃ i, state.2.get? name = some i ∧ i.Sound ∧
      ∀ l, i.normalizeLease l = i₀.normalizeLease l := by
  have hinit : (begun c disk (Service.interfacesOf c)).Tracked [] := Tracked.interfacesOf c disk
  obtain ⟨i, hi, hrun⟩ := hr.moved.desk hi₀
  obtain ⟨hsound, hemptied⟩ := (hinit.sound hi₀).run hrun
  exact ⟨i, hi, hsound.interface, Interface.normalizeLease_of_emptied hemptied⟩

/-- An entry that comes to nothing by itself is skipped. -/
lemma restoreEntry_of_none (hr : Restored c disk taken state) (h : restorable c time e = none) :
    Service.restoreEntry time state e = state := by
  cases hi₀ : (Service.interfacesOf c).get? e.interface with
  | none =>
    have hi : state.2.get? e.interface = none := hr.moved.absent hi₀
    simp only [Service.restoreEntry, hi]
  | some i₀ =>
    obtain ⟨i, hi, -, hnormal⟩ := hr.exists_interface hi₀
    cases hexpired : e.lease.isExpiredAt time with
    | true => simp only [Service.restoreEntry, hi, hexpired, if_true]
    | false =>
      cases hm : i₀.normalizeLease e.lease with
      | error fault =>
        simp only [Service.restoreEntry, hi, hexpired, Interface.addLease, hnormal, hm,
          Bool.false_eq_true, if_false]
      | ok m =>
        rw [restorable_eq_some_iff.2 ⟨hexpired, i₀, m, hi₀, hm, rfl⟩] at h
        cases h

/-- Every other one is offered to its interface. -/
lemma restoreEntry_of_some (hr : Restored c disk taken state)
    (h : restorable c time e = some entry) :
    ∃ i m, entry = ⟨e.interface, m⟩ ∧ state.2.get? e.interface = some i ∧ i.Sound ∧
      i.normalizeLease e.lease = .ok m ∧
      ∀ result i', i.addLease e.lease = (result, i') → Service.restoreEntry time state e =
        match result with
        | .ok _ => (state.1 + 1, state.2.insert e.interface i')
        | .error _ => state := by
  obtain ⟨hexpired, i₀, m, hi₀, hm, rfl⟩ := restorable_eq_some_iff.1 h
  obtain ⟨i, hi, hsound, hnormal⟩ := hr.exists_interface hi₀
  refine ⟨i, m, rfl, hi, hsound, by rw [hnormal, hm], ?_⟩
  intro result i' hadd
  simp only [Service.restoreEntry, hi, hexpired, hadd, Bool.false_eq_true, if_false]
  cases result <;> rfl

/-- One more entry is restored iff it is one more that is taken. -/
lemma restoreEntry (hr : Restored c disk taken state) (e : StoredLease) :
    Restored c disk (admitNext c time taken e) (Service.restoreEntry time state e) := by
  have hinit : (begun c disk (Service.interfacesOf c)).Tracked [] := Tracked.interfacesOf c disk
  have hmoved : Moved (begun c disk (Service.interfacesOf c))
      (begun c disk (Service.restoreEntry time state e).2) [] [] :=
    hr.moved.trans (restoreEntry_moved (begun c disk state.2) time state.1 e)
  unfold admitNext
  cases hentry : restorable c time e with
  | none =>
    rw [hr.restoreEntry_of_none hentry]
    exact hr
  | some entry =>
    obtain ⟨i, m, rfl, hi, hsound, hm, hoffered⟩ := hr.restoreEntry_of_some hentry
    have hclash := exists_clash_iff (m := m) hr.entries hi
    simp only [hclash]
    rcases hsound.addLease_cases hm with ⟨hshare, fault, hrefused⟩ | ⟨hfree, i', hadd, hleases⟩
    · rw [if_pos hshare, hoffered _ _ (Prod.ext hrefused rfl)]
      exact hr
    · rw [hoffered _ _ hadd] at hmoved ⊢
      rw [if_neg hfree]
      have hnew : m ∉ i.leases := fun hmem => hfree ⟨m, hmem, rfl, .inl rfl⟩
      have hentries := entries_setInterface_perm (hinit.moved hr.moved) (hinit.moved hmoved) hi
        hleases hnew
      refine ⟨?_, hmoved, hentries.trans (hr.entries.append_right _)⟩
      rw [hr.count, List.length_append, List.length_singleton]

/-- All entries are gone through, one after another. -/
lemma restoreEntries (time : Timestamp) (es : List StoredLease) :
    Restored c disk (admitted c time es)
      (es.foldl (Service.restoreEntry time) (0, Service.interfacesOf c)) := by
  induction es using List.reverseRecOn with
  | nil => exact .interfacesOf c disk
  | append_singleton es e ih =>
    rw [admitted_append, List.foldl_append]
    exact ih.restoreEntry e

end Restored

/-! ## Starting -/

/-- A service starts with the entries that are taken, and counts them. -/
lemma start_of_entries {text : String} {es : List StoredLease} (hvalid : c.validate = .ok ())
    (hfile : c.leasesFile ≠ "") (htext : disk.readText c.leasesFile = some text)
    (hes : LeaseFile.parse? text = some es) (now : ℕ) :
    ∃ interfaces, start now c disk =
        .ok ((begun c disk interfaces).entries.length, begun c disk interfaces) ∧
      (begun c disk interfaces).entries.Perm (admitted c (.ofMillis now) es) := by
  have hstart := start_of_parse? hvalid hfile htext hes now
  have hrestored : Restored c disk _ _ := .restoreEntries (.ofMillis now) es
  refine ⟨_, ?_, hrestored.entries⟩
  rw [hrestored.entries.length_eq, ← hrestored.count]
  exact hstart

/-- **A service starts with the entries that an operator could add.** Whatever entries a lease file
has, a service with a checked configuration starts with it. Its leases are the entries, in their
normal form, that are for an interface of it, have not expired, pass the checks and are not kept out
by those taken before them. They are as many as it says, and it has written nothing and has nothing
to write. A text that has no entries to be read brings no service. -/
theorem start_admits {text : String} (hvalid : c.validate = .ok ()) (hfile : c.leasesFile ≠ "")
    (htext : disk.readText c.leasesFile = some text) :
    (∀ es, LeaseFile.parse? text = some es → ∃ s,
      start now c disk = .ok (s.leases.length, s) ∧
        s.entries.Perm (admitted c (.ofMillis now) es) ∧
        (∀ entry, entry ∈ s.entries ↔ ∃ before e after, es = before ++ e :: after ∧
          restorable c (.ofMillis now) e = some entry ∧
          ∀ other ∈ admitted c (.ofMillis now) before, ¬ entry.Clashes other) ∧
        s.config = c ∧ s.disk = disk ∧ s.dirty = false ∧ s.lastSave = none) ∧
      (LeaseFile.parse? text = none → start now c disk = .error .unreadable) := by
  constructor
  · intro es hes
    obtain ⟨interfaces, hstart, hentries⟩ := start_of_entries hvalid hfile htext hes now
    refine ⟨begun c disk interfaces, ?_, hentries, ?_, rfl, rfl, rfl, rfl⟩
    · rw [leases_eq_map_entries, List.length_map]
      exact hstart
    · intro entry
      rw [hentries.mem_iff, mem_admitted_iff]
  · intro hes
    have hnamed : c.leasesFile.isEmpty = false := by simpa using hfile
    have hthere : disk.hasPath c.leasesFile = true := Disk.hasPath_of_readText htext
    simp only [start, hvalid, restore, hnamed, hthere, htext, hes]
    rfl

/-- Of six entries two are left: the others are for an interface that is not there, expired, under
the hostname of one that has been taken, and outside the subnet. -/
theorem exists_start_admits : ∃ text es s, ∃ printer guest : Lease,
    LeaseFile.parse? text = some es ∧ es.length = 6 ∧
      start 100000 .default (.ofFiles [("leases.json", .text text)]) = .ok (2, s) ∧
      s.entries.Perm [⟨"eth0", printer⟩, ⟨"eth0", guest⟩] ∧ printer.hostname = "printer" ∧
      s.dirty = false := by
  let host (n : UInt8) : IpAddr := .v4 (.ofBytes 192 168 1 n)
  let client (n : UInt8) : HwAddr := ⟨[2, 0, 0, 0, 0, n]⟩
  let printer : Lease := .static (host 50) (client 1) "printer"
  let guest : Lease := ⟨host 100, client 2, "guest", some ⟨200, 0⟩, false⟩
  let es : List StoredLease :=
    [⟨"eth0", { printer with hostname := "Printer" }⟩,
      ⟨"eth1", .static (host 51) (client 2) "scanner"⟩,
      ⟨"eth0", { guest with expiresAt := some ⟨60, 0⟩ }⟩,
      ⟨"eth0", .static (host 51) (client 2) "PRINTER"⟩,
      ⟨"eth0", .static (.v4 (.ofBytes 10 0 0 50)) (client 3) "router"⟩,
      ⟨"eth0", guest⟩]
  have hstatic : ∀ ip n name, Lease.Storable (.static ip (client n) name) :=
    fun ip n name => ⟨by simp [Lease.static, client], by simp [Lease.Timely, Lease.static]⟩
  have hguest : ∀ t : Timestamp, t.Valid → Lease.Storable { guest with expiresAt := some t } := by
    intro t ht
    refine ⟨by simp [guest, client], ?_⟩
    intro t' ht'
    rwa [← Option.some.inj ht']
  have hstorable : ∀ e ∈ es, e.lease.Storable := by
    simp only [es, List.forall_mem_cons, List.not_mem_nil, false_imp_iff, implies_true, and_true]
    exact ⟨hstatic _ _ _, hstatic _ _ _, hguest _ ⟨by decide +kernel, by decide⟩, hstatic _ _ _,
      hstatic _ _ _, hguest _ ⟨by decide +kernel, by decide⟩⟩
  -- from here on it does not matter how the text is made
  obtain ⟨text, hes⟩ : ∃ text, LeaseFile.parse? text = some es :=
    ⟨_, LeaseFile.parse?_render hstorable⟩
  let disk : Disk := .ofFiles [("leases.json", .text text)]
  have htext : disk.readText "leases.json" = some text := by
    have hplace : disk.locate "leases.json" = .file "leases.json" := by
      show (Disk.ofFiles []).locate "leases.json" = _
      decide +kernel
    simp only [Disk.readText, hplace]
    rfl
  have hvalid : Config.default.validate = .ok () := by decide +kernel
  obtain ⟨s, hstart, hentries, -, -, -, hdirty, -⟩ :=
    (@start_admits .default disk 100000 text hvalid (by decide) htext).1 es hes
  have htaken : admitted .default (.ofMillis (100000 : ℕ)) es =
      [⟨"eth0", printer⟩, ⟨"eth0", guest⟩] := by
    decide +kernel
  rw [htaken] at hentries
  have hcount : s.leases.length = 2 := by
    rw [leases_eq_map_entries, List.length_map, hentries.length_eq]
    rfl
  rw [hcount] at hstart
  exact ⟨text, es, s, printer, guest, hes, rfl, hstart, hentries, rfl, hdirty⟩

end Service

end DhcpLeasing
