import DhcpLeasing.Proofs.ConfigFile
import DhcpLeasing.Proofs.Reaper
import DhcpLeasing.Proofs.Service.Admission

/-!
# Cleaning up leases

To clean up leases is to read the lease file, to make a reap pass and to write the file again. What
is restored has not expired at the time, so the pass finds nothing to remove and it is the restoring
that cleans up: the entries that it takes are written in their normal form and in order. From the
file they are restored as they are, so that cleaning up once more changes nothing.

* `Service.start_of_holds` says what a service starts with, and `Service.entries_sorted` in which
  order it writes that;
* `Service.start_again` says that a service that starts with what has been written has the same
  leases;
* `CommandLine.cleanup_settles` puts this together for whole commands.
-/

namespace DhcpLeasing

/-! ## The order of entries -/

/-- An address with a place before another one of its family has a lower number. -/
lemma IpAddr.number_lt_of_compare {a b : IpAddr} (hfamily : a.family = b.family)
    (h : compare a b = .lt) : a.number < b.number := by
  rw [compare_def, Nat.compare_eq_lt] at h
  cases a with
  | v4 a =>
    cases b with
    | v4 b => exact h
    | v6 b => cases hfamily
  | v6 a =>
    cases b with
    | v4 b => cases hfamily
    | v6 b =>
      simp only [rank, number] at h ⊢
      omega

/-- Whether a lease is listed before another one: IPv4 comes first, and each family ascends. -/
def Lease.Before (l m : Lease) : Prop :=
  l.family = .v4 ∧ m.family = .v6 ∨ l.family = m.family ∧ l.ip.number < m.ip.number

/-- Whether an entry is written before another one: first by the names of the interfaces, then as
their leases are listed. -/
def StoredLease.Before (a b : StoredLease) : Prop :=
  compare a.interface b.interface = .lt ∨ a.interface = b.interface ∧ a.lease.Before b.lease

namespace Interface

variable {i i' : Interface} {l m : Lease}

lemma Sound.leases_sorted (h : i.Sound) : i.leases.Pairwise Lease.Before := by
  have hscope : ∀ f, ((i.scope? f).toList.flatMap (·.table.leases)).Pairwise Lease.Before := by
    intro f
    cases hs : i.scope? f with
    | none => simp
    | some s =>
      rw [Option.toList_some, List.flatMap_singleton]
      apply (h.scope hs).table.leases_ascending.imp_of_mem
      intro l m hl hm hlt
      have hfamily := (h.family_of_mem hs hl).trans (h.family_of_mem hs hm).symm
      exact .inr ⟨hfamily, IpAddr.number_lt_of_compare hfamily hlt⟩
  rw [leases_eq, List.pairwise_append]
  refine ⟨hscope .v4, hscope .v6, ?_⟩
  intro l hv4 m hv6
  exact .inl ⟨h.family_of_mem_scope? hv4, h.family_of_mem_scope? hv6⟩

/-- The checks for an operator's lease do not touch what it expires by. -/
lemma isExpiredAt_normalizeLease (hl : i.normalizeLease l = .ok m) (time : Timestamp) :
    m.isExpiredAt time = l.isExpiredAt time := by
  simp only [normalizeLease, bind_eq_ok_iff, adminScope_eq_ok_iff, mapError_eq_ok_iff] at hl
  obtain ⟨s, -, ⟨⟩, -, hostname, -, hl⟩ := hl
  split at hl
  · next hstatic =>
    simp only [bind_eq_ok_iff, mapError_eq_ok_iff, pure_eq_ok_iff] at hl
    obtain ⟨⟨⟩, -, rfl⟩ := hl
    simp [Lease.isExpiredAt, hstatic]
  · simp only [bind_eq_ok_iff, mapError_eq_ok_iff, pure_eq_ok_iff] at hl
    obtain ⟨⟨⟩, -, rfl⟩ := hl
    rfl

end Interface

/-! ## Starting, and starting again -/

/-- What it means that a lease file has such entries; a missing one has none. -/
inductive LeaseFile.Holds (disk : Disk) (path : String) : List StoredLease → Prop
  | missing (h : disk.hasPath path = false) : Holds disk path []
  | read {text : String} {es : List StoredLease} (htext : disk.readText path = some text)
      (hparse : parse? text = some es) : Holds disk path es

namespace Service

variable {c : Config} {disk disk' : Disk} {time : Timestamp} {now count : ℕ} {e : StoredLease}
  {es : List StoredLease} {s s' : Service} {w w' : List (SiteKey × Pending)}

/-- The entries are written in order. -/
lemma entries_sorted (h : s.Tracked w) : s.entries.Pairwise StoredLease.Before := by
  rw [entries, List.pairwise_flatMap]
  constructor
  · rintro ⟨name, i⟩ hi
    rw [List.pairwise_map]
    apply (h.sound (SortedMap.mem_toList_iff.1 hi)).interface.leases_sorted.imp
    intro l m hbefore
    exact .inr ⟨rfl, hbefore⟩
  · refine s.interfaces.ascending.imp ?_
    rintro ⟨name, i⟩ ⟨name', i'⟩ hlt e he e' he'
    obtain ⟨l, -, rfl⟩ := List.mem_map.1 he
    obtain ⟨l', -, rfl⟩ := List.mem_map.1 he'
    exact .inl hlt

/-- What is taken has not expired, since its normal form expires when it does. -/
lemma isExpiredAt_of_mem_admitted (h : e ∈ admitted c time es) :
    e.lease.isExpiredAt time = false := by
  obtain ⟨-, e', -, -, hrestorable, -⟩ := mem_admitted_iff.1 h
  obtain ⟨hexpired, i, m, -, hm, rfl⟩ := restorable_eq_some_iff.1 hrestorable
  exact (Interface.isExpiredAt_normalizeLease hm time).trans hexpired

/-- A service starts with the entries that are taken out of its lease file. -/
lemma start_of_holds (hvalid : c.validate = .ok ()) (hfile : c.leasesFile ≠ "")
    (hes : LeaseFile.Holds disk c.leasesFile es) (now : ℕ) :
    ∃ s, start now c disk = .ok (s.entries.length, s) ∧
      s.entries.Perm (admitted c (.ofMillis now) es) := by
  cases hes with
  | missing hmissing =>
    have hnamed : c.leasesFile.isEmpty = false := by simpa using hfile
    have hrestored : Restored c disk [] (0, interfacesOf c) := .interfacesOf c disk
    refine ⟨begun c disk (interfacesOf c), ?_, hrestored.entries⟩
    rw [hrestored.entries.length_eq]
    simp only [start, hvalid, restore, hnamed, hmissing]
    rfl
  | read htext hparse =>
    obtain ⟨interfaces, hstart, hentries⟩ := start_of_entries hvalid hfile htext hparse now
    exact ⟨begun c disk interfaces, hstart, hentries⟩

lemma store_of_start (hstart : start now c disk = .ok (count, s)) :
    s.config = c ∧ s.disk = disk ∧ s.dirty = false := by
  obtain ⟨interfaces, rfl, -⟩ := start_cases hstart
  exact ⟨rfl, rfl, rfl⟩

/-- With what a service has written another one starts, at the same time, with the same leases, if
none of them has expired. -/
lemma start_again (hstart : start now c disk = .ok (count, s)) (hfile : c.leasesFile ≠ "")
    (hfresh : ∀ e ∈ s.entries, e.lease.isExpiredAt (.ofMillis now) = false)
    (htext : disk'.readText c.leasesFile = some (LeaseFile.render s.entries)) :
    ∃ s', start now c disk' = .ok (s'.entries.length, s') ∧
      ∀ name, (s'.interfaces.get? name).map Interface.leases =
        (s.interfaces.get? name).map Interface.leases := by
  obtain ⟨hvalid, -⟩ := start_eq_ok hstart
  obtain ⟨-, -, hmoved⟩ := start_cases hstart
  obtain ⟨s', hstart', hleases⟩ := start_of_written hvalid hfile hmoved (Tracked.start hstart)
    (Timely.start hstart) htext now
  refine ⟨s', ?_, ?_⟩
  · rwa [leases_eq_map_entries, List.length_map] at hstart'
  · intro name
    rw [hleases]
    cases hi : s.interfaces.get? name with
    | none => rfl
    | some i =>
      rw [Option.map_some, Option.map_some, List.filter_eq_self.2]
      intro l hl
      rw [hfresh ⟨name, l⟩ (mem_entries_iff.2 ⟨i, hi, hl⟩), Bool.not_false]

/-- Where there is nothing to write and nothing has changed, there is nothing to take note of. -/
lemma noteChange_of_clean (hclean : s.dirty = false) (now : ℕ) : s.noteChange now false = s := by
  obtain ⟨config, interfaces, disk, dirty, lastSave, nextPass⟩ := s
  obtain rfl : dirty = false := hclean
  rfl

/-- A pass that finds nothing to remove, and nothing to write, changes nothing. -/
lemma reapPass_of_fresh (hclean : s.dirty = false)
    (hfresh : ∀ e ∈ s.entries, e.lease.isExpiredAt time = false) (now : ℕ) :
    (s.reapPass now time).2 = s := by
  have hnone : ∀ {name i}, s.interfaces.get? name = some i → (i.reapExpired time).1 = [] := by
    intro name i hi
    rw [Interface.removed_reapExpired, List.filter_eq_nil_iff]
    intro l hl hlapsed
    have hnot := hfresh ⟨name, l⟩ (mem_entries_iff.2 ⟨i, hi, hl⟩)
    rw [Lease.isExpiredAt_eq_decide, hlapsed] at hnot
    cases hnot
  have hinterfaces : s.interfaces.mapValues (fun (i : Interface) => (i.reapExpired time).2) =
      s.interfaces := by
    apply SortedMap.ext_get?
    intro name
    rw [SortedMap.get?_mapValues]
    cases hi : s.interfaces.get? name with
    | none => rfl
    | some i => rw [Option.map_some, reapExpired_of_nil (hnone hi)]
  have hcount : (Reaper.pass time s.interfaces.values).1 = 0 := by
    rw [Reaper.pass, List.length_eq_zero_iff, List.flatMap_eq_nil_iff]
    intro i hi
    obtain ⟨name, hi⟩ := SortedMap.mem_values_iff.1 hi
    exact hnone hi
  simp only [reapPass, hinterfaces, hcount]
  exact noteChange_of_clean hclean now

/-- The interfaces of a service have their names. -/
lemma Tracked.name_eq {name : String} {i : Interface} (h : s.Tracked w)
    (hi : s.interfaces.get? name = some i) : i.name = name := by
  obtain ⟨ic, -, hreach⟩ := h hi
  exact congrArg (·.name) hreach.sound.2

end Service

namespace CommandLine

open Service

variable {c : Config} {path : String} {disk disk' loaded : Disk} {now count : ℕ}
  {es : List StoredLease} {s s' : Service} {w w' : List (SiteKey × Pending)}

/-! ## Commands -/

/-- Services whose interfaces have the same leases are listed in the same way. -/
lemma map_listing_eq (h : s.Tracked w) (h' : s'.Tracked w')
    (hleases : ∀ name, (s'.interfaces.get? name).map Interface.leases =
      (s.interfaces.get? name).map Interface.leases) (time : Timestamp) :
    s'.interfaces.values.map (listing time) = s.interfaces.values.map (listing time) := by
  have hlistings : s'.interfaces.mapValues (listing time) =
      s.interfaces.mapValues (listing time) := by
    apply SortedMap.ext_get?
    intro name
    rw [SortedMap.get?_mapValues, SortedMap.get?_mapValues]
    have hsame := hleases name
    cases hi : s.interfaces.get? name with
    | none =>
      rw [hi, Option.map_none, Option.map_eq_none_iff] at hsame
      rw [hsame]
    | some i =>
      rw [hi, Option.map_some, Option.map_eq_some_iff] at hsame
      obtain ⟨i', hi', hsame⟩ := hsame
      rw [hi', Option.map_some, Option.map_some, listing, listing, hsame, h.name_eq hi,
        h'.name_eq hi']
  rw [← SortedMap.values_mapValues, hlistings, SortedMap.values_mapValues]

/-- What is printed when so many leases are left. -/
def cleanupReport (count : ℕ) : String :=
  "Cleaned up expired leases, " ++ String.ofList (Text.decimal count) ++
    " active lease(s) remain.\n"

/-- A cleanup among whose leases none has expired writes the entries, and nothing else. -/
lemma perform_cleanup (hstart : Service.start now c disk = .ok (count, s))
    (hfile : c.leasesFile ≠ "")
    (hfresh : ∀ e ∈ s.entries, e.lease.isExpiredAt (.ofMillis now) = false)
    (hwrite : disk.writeText c.leasesFile (LeaseFile.render s.entries) = some disk') :
    perform now .cleanupLeases c disk =
      .ok (.printed (cleanupReport s.entries.length) disk') := by
  obtain ⟨rfl, rfl, hclean⟩ := store_of_start hstart
  rcases hreap : s.reapPass now (.ofMillis now) with ⟨removed, reaped⟩
  have hpass := reapPass_of_fresh hclean hfresh now
  rw [hreap] at hpass
  obtain rfl : reaped = s := hpass
  have hsave := save_of_writeText hfile hwrite now
  rw [perform, bind_eq_ok_iff]
  refine ⟨_, hstart, ?_⟩
  -- what has been saved has the same leases
  have hleases : leases { reaped with disk := disk', dirty := false, lastSave := some now } =
      reaped.entries.map (·.lease) := leases_eq_map_entries reaped
  simp only [hreap, hsave, hleases, List.length_map]
  exact pure_eq_ok_iff.2 rfl

lemma perform_list (hstart : Service.start now c disk = .ok (count, s)) :
    perform now .listLeases c disk =
      .ok (.printed (String.join (s.interfaces.values.map (listing (.ofMillis now)))) disk) := by
  obtain ⟨-, rfl, -⟩ := store_of_start hstart
  rw [perform, hstart]
  rfl

/-- A command goes by the configuration that is loaded. -/
lemma execute_of_loaded {arguments : List String} {command : Command} {outcome : Outcome}
    (hdemand : demand arguments = .command command path)
    (hload : ConfigFile.loadOrCreate path disk = .ok (c, loaded))
    (hperform : perform now command c loaded = .ok outcome) :
    execute now arguments disk = outcome := by
  rw [execute, hdemand]
  simp only [hload, hperform]

/-- What it means that files are those of a deployment with a lease file that can be kept. The
configuration is at a path, or it is made there; then the disk is `loaded`. The lease file is
another file, it can be written, and it has such entries. -/
structure Deployed (path : String) (disk loaded : Disk) (c : Config) (es : List StoredLease) :
    Prop where
  load : ConfigFile.loadOrCreate path disk = .ok (c, loaded)
  named : c.leasesFile ≠ ""
  writable : ∃ place, loaded.locate c.leasesFile = .file place
  apart : loaded.locate path ≠ loaded.locate c.leasesFile
  holds : LeaseFile.Holds loaded c.leasesFile es

/-- **A cleanup settles the lease file.** Whatever entries the lease file of a deployment has, after
a cleanup it has those that a service starts with, in their normal form: none of them has expired,
they are in order, and the cleanup says how many they are. They are read from the file as they are,
and no other file is touched. The same cleanup once more leaves all files as they are, and says the
same. What is listed at the time is the same before and after it, and listing leaves all files as
they are, once there is a configuration. -/
theorem cleanup_settles (h : Deployed path disk loaded c es) (now : ℕ) {cleanup list : List String}
    (hcleanup : demand cleanup = .command .cleanupLeases path)
    (hlist : demand list = .command .listLeases path) :
    (disk.hasPath path → loaded = disk) ∧ ∃ s tidy listed,
      Service.start now c loaded = .ok (s.entries.length, s) ∧
      s.entries.Perm (admitted c (.ofMillis now) es) ∧
      (∀ e ∈ s.entries, e.lease.isExpiredAt (.ofMillis now) = false) ∧
      s.entries.Pairwise StoredLease.Before ∧
      loaded.writeText c.leasesFile (LeaseFile.render s.entries) = some tidy ∧
      tidy.readText c.leasesFile = some (LeaseFile.render s.entries) ∧
      LeaseFile.parse? (LeaseFile.render s.entries) = some s.entries ∧
      execute now cleanup disk = .printed (cleanupReport s.entries.length) tidy ∧
      execute now cleanup tidy = .printed (cleanupReport s.entries.length) tidy ∧
      execute now list disk = .printed listed loaded ∧
      execute now list tidy = .printed listed tidy := by
  obtain ⟨-, hvalid, hthere⟩ := ConfigFile.loadOrCreate_cases h.load
  refine ⟨hthere, ?_⟩
  obtain ⟨s, hstart, hentries⟩ := start_of_holds hvalid h.named h.holds now
  have htracked : s.Tracked [] := Tracked.start hstart
  have hfresh : ∀ e ∈ s.entries, e.lease.isExpiredAt (.ofMillis now) = false :=
    fun e he => isExpiredAt_of_mem_admitted (hentries.mem_iff.1 he)
  have hparse := (Timely.start hstart).parse?_render_entries htracked
  -- the first cleanup
  obtain ⟨place, hplace⟩ := h.writable
  obtain ⟨tidy, hwrite⟩ : ∃ tidy,
      loaded.writeText c.leasesFile (LeaseFile.render s.entries) = some tidy :=
    ⟨_, Disk.writeText_of_locate hplace _⟩
  have htext := Disk.readText_of_writeText hwrite
  have hfirst := perform_cleanup hstart h.named hfresh hwrite
  -- the second one starts with the same entries, and so it writes the same text
  have hload : ConfigFile.loadOrCreate path tidy = .ok (c, tidy) :=
    ConfigFile.loadOrCreate_again h.load (Disk.readText_of_writeText_ne hwrite h.apart)
  obtain ⟨s', hstart', hleases⟩ := start_again hstart h.named hfresh htext
  have hsame : s'.entries = s.entries := entries_eq_of_leases hleases
  have hsecond : perform now .cleanupLeases c tidy =
      .ok (.printed (cleanupReport s.entries.length) tidy) := by
    rw [← hsame] at hfresh ⊢
    apply perform_cleanup hstart' h.named hfresh
    rw [hsame]
    exact Disk.writeText_again hwrite
  -- and the listings are of the same leases
  have hlistings := map_listing_eq htracked (Tracked.start hstart') hleases (.ofMillis now)
  have hlisted := perform_list hstart'
  rw [hlistings] at hlisted
  exact ⟨s, tidy, _, hstart, hentries, hfresh, entries_sorted htracked, hwrite, htext, hparse,
    execute_of_loaded hcleanup h.load hfirst, execute_of_loaded hcleanup hload hsecond,
    execute_of_loaded hlist h.load (perform_list hstart), execute_of_loaded hlist hload hlisted⟩

/-- Of three entries one has expired, and of the others the lower address comes last. -/
theorem exists_cleanup_settles : ∃ config text es tidy listed,
    ConfigFile.parse? config = some .default ∧ LeaseFile.parse? text = some es ∧ es.length = 3 ∧
      let disk : Disk := .ofFiles [("config.json", .text config), ("leases.json", .text text)]
      let report := "Cleaned up expired leases, 2 active lease(s) remain.\n"
      execute 100000 ["cleanup-leases"] disk = .printed report tidy ∧
        execute 100000 ["cleanup-leases"] tidy = .printed report tidy ∧
        execute 100000 ["list-leases"] disk = .printed listed disk ∧
        execute 100000 ["list-leases"] tidy = .printed listed tidy := by
  let host (n : UInt8) : IpAddr := .v4 (.ofBytes 192 168 1 n)
  let guest (n : UInt8) (seconds : ℤ) : Lease :=
    ⟨host n, ⟨[2, 0, 0, 0, 0, n]⟩, "", some ⟨seconds, 0⟩, false⟩
  let es : List StoredLease :=
    [⟨"eth0", guest 110 60⟩, ⟨"eth0", guest 101 200⟩, ⟨"eth0", guest 100 200⟩]
  have hguest : ∀ n, ∀ t : ℤ, Timestamp.Valid ⟨t, 0⟩ → Lease.Storable (guest n t) := by
    intro n t ht
    refine ⟨by simp [guest], ?_⟩
    intro t' ht'
    rwa [← Option.some.inj ht']
  have hstorable : ∀ e ∈ es, e.lease.Storable := by
    simp only [es, List.forall_mem_cons, List.not_mem_nil, false_imp_iff, implies_true, and_true]
    exact ⟨hguest _ _ ⟨by decide +kernel, by decide⟩, hguest _ _ ⟨by decide +kernel, by decide⟩,
      hguest _ _ ⟨by decide +kernel, by decide⟩⟩
  -- from here on it does not matter how the texts are made
  obtain ⟨config, hconfig⟩ : ∃ config, ConfigFile.parse? config = some .default :=
    ⟨_, ConfigFile.parse?_render .default⟩
  obtain ⟨text, hes⟩ : ∃ text, LeaseFile.parse? text = some es :=
    ⟨_, LeaseFile.parse?_render hstorable⟩
  let disk : Disk := .ofFiles [("config.json", .text config), ("leases.json", .text text)]
  have hfiles : disk.files = (SortedMap.empty.insert "config.json" (.text config)).insert
      "leases.json" (.text text) := rfl
  obtain ⟨hconfigPlace, hplace⟩ : disk.locate "config.json" = .file "config.json" ∧
      disk.locate "leases.json" = .file "leases.json" := by
    show (Disk.ofFiles []).locate "config.json" = _ ∧ (Disk.ofFiles []).locate "leases.json" = _
    decide +kernel
  have hread : disk.readText "config.json" = some config := by
    simp [Disk.readText, hconfigPlace, hfiles]
  have htext : disk.readText "leases.json" = some text := by
    simp [Disk.readText, hplace, hfiles]
  have hload : ConfigFile.loadOrCreate "config.json" disk = .ok (.default, disk) := by
    rw [ConfigFile.loadOrCreate_of_parse? hread hconfig, ConfigFile.validate_default]
    rfl
  have hapart : disk.locate "config.json" ≠ disk.locate "leases.json" := by
    rw [hconfigPlace, hplace]
    decide
  have hdeployed : Deployed "config.json" disk disk .default es :=
    ⟨hload, by decide, ⟨_, hplace⟩, hapart, .read htext hes⟩
  obtain ⟨-, s, tidy, listed, -, hentries, -, -, -, -, -, hfirst, hsecond, hbefore, hafter⟩ :=
    cleanup_settles hdeployed 100000 (by decide +kernel : demand ["cleanup-leases"] = _)
      (by decide +kernel : demand ["list-leases"] = _)
  have htaken : (admitted .default (.ofMillis (100000 : ℕ)) es).length = 2 := by decide +kernel
  rw [hentries.length_eq, htaken] at hfirst hsecond
  exact ⟨config, text, es, tidy, listed, hconfig, hes, rfl, hfirst, hsecond, hbefore, hafter⟩

end CommandLine

end DhcpLeasing
