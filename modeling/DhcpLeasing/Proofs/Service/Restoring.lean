import DhcpLeasing.Proofs.Service.Saving

/-!
# Leases outlive a restart

A service that starts with the lease file of another one, which had the same configuration, takes
all leases that have not expired, and nothing else: every lease passes the checks that it has passed
before, and no two of them share a key. The entries are restored one by one; `Refilled` says how far
that has got.
-/

namespace DhcpLeasing

namespace Interface

variable {i i' : Interface} {s : Scope} {f : Family} {l : Lease} {wanted : Lease → Bool}

/-! ## Interfaces with some of the leases -/

/-- What it means that an interface is configured like another one, and holds those of its leases
that are wanted. -/
structure Retains (wanted : Lease → Bool) (i i' : Interface) : Prop where
  sound : i'.Sound
  emptied : i'.emptied = i.emptied
  leaseByIp : ∀ ip, i'.leaseByIp ip = (i.leaseByIp ip).filter wanted

/-- What is wanted of one scope is in the other one. -/
lemma Retains.lookup (hk : Retains wanted i i') (h : i.Sound) {s' : Scope}
    (hs : i.scope? f = some s) (hs' : i'.scope? f = some s') (ip : IpAddr) :
    s'.table.lookup ip = (s.table.lookup ip).filter wanted := by
  by_cases hip : ip.family = f
  · subst hip
    have hheld := hk.leaseByIp ip
    rwa [leaseByIp_of_scope? hs, leaseByIp_of_scope? hs'] at hheld
  · rw [h.lookup_of_family_ne hs hip, hk.sound.lookup_of_family_ne hs' hip]
    rfl

lemma Retains.leases (hk : Retains wanted i i') (h : i.Sound) :
    i'.leases = i.leases.filter wanted := by
  have hfamily : ∀ f, (i'.scope? f).toList.flatMap (·.table.leases) =
      ((i.scope? f).toList.flatMap (·.table.leases)).filter wanted := by
    intro f
    cases hs : i.scope? f with
    | none =>
      cases hs' : i'.scope? f with
      | none => rfl
      | some s' =>
        obtain ⟨s, hs'', -⟩ := scope?_of_emptied hk.emptied.symm hs'
        rw [hs] at hs''
        cases hs''
    | some s =>
      obtain ⟨s', hs', -⟩ := scope?_of_emptied hk.emptied hs
      have hvalues : s'.table.leases = s.table.leases.filter wanted :=
        SortedMap.values_eq_filter (hk.lookup h hs hs')
      simpa [hs'] using hvalues
  rw [leases_eq, leases_eq, hfamily, hfamily, List.filter_append]

/-! ## Adding a lease again -/

/-- A lease of an interface is added as it is to one that does not hold it yet. -/
lemma Retains.addLease_eq (hk : Retains wanted i i') (h : i.Sound) (hl : l ∈ i.leases)
    (hnot : wanted l = false) :
    ∃ i'', i'.addLease l = (.ok l, i'') ∧
      ∀ ip, i''.leaseByIp ip = if ip = l.ip then some l else i'.leaseByIp ip := by
  obtain ⟨s, hs, hlookup⟩ := h.exists_scope hl
  obtain ⟨s', hs', hpool⟩ := scope?_of_emptied hk.emptied hs
  have hsound := h.scope hs
  have hsound' := hk.sound.scope hs'
  have hheld := hk.lookup h hs hs'
  have hfits : s'.pool.Fits l := hpool ▸ hsound.fits hlookup
  have hfree : s'.table.lookup l.ip = none := by
    rw [hheld, hlookup, Option.filter_some, hnot]
    rfl
  -- all leases of the other interface have keys of their own
  have hadmits : s'.table.Admits l := by
    intro ip m hm hshare
    have hm' : s.table.lookup ip = some m := by
      rw [hheld, Option.filter_eq_some_iff] at hm
      exact hm.1
    obtain rfl : l.ip = ip := hsound.table.eq_of_sharesKey hlookup hm' hshare
    rw [hfree] at hm
    cases hm
  have hfamily : l.ip.family = s'.table.family := by
    rw [hsound'.family, hk.sound.family hs']
  have hinsert := LeaseTable.insert_of_admits hsound'.table hfamily hfree hadmits
  refine ⟨i'.setScope { s' with table := (s'.table.strike l.ip).enter l } l.ip.family, ?_, ?_⟩
  · simp only [Interface.addLease, normalizeLease_of_fits hk.sound hs' hfits, changeTable,
      adminScope_eq_ok_iff.2 hs', hinsert]
  · intro ip
    rw [Interface.leaseByIp, Interface.leaseByIp, scope?_setScope]
    by_cases hip : ip.family = l.ip.family
    · rw [if_pos hip, Option.bind_some, LeaseTable.lookup_enter_strike, hip, hs', Option.bind_some]
    · have hne : ip ≠ l.ip := fun heq => hip (by rw [heq])
      rw [if_neg hip, if_neg hne]

/-- With the lease, one more is held. -/
lemma Retains.addLease (hk : Retains wanted i i') (h : i.Sound) (hl : l ∈ i.leases)
    (hnot : wanted l = false) :
    ∃ i'', i'.addLease l = (.ok l, i'') ∧ Retains (fun m => m = l || wanted m) i i'' := by
  obtain ⟨i'', hadd, hlookup⟩ := hk.addLease_eq h hl hnot
  have hamended := addLease_amended hk.sound l
  rw [hadd] at hamended
  refine ⟨i'', hadd, hamended.sound hk.sound, hamended.emptied_eq.trans hk.emptied, ?_⟩
  intro ip
  rw [hlookup]
  split
  · next heq =>
    obtain ⟨s, hs, hl⟩ := h.exists_scope hl
    rw [heq, leaseByIp_of_scope? hs, hl, Option.filter_some]
    simp
  · next hne =>
    rw [hk.leaseByIp]
    cases hm : i.leaseByIp ip with
    | none => rfl
    | some m =>
      have hother : m ≠ l := by
        rintro rfl
        exact hne (h.ip_eq hm).symm
      simp [Option.filter_some, hother]

/-- What is wanted of leases that are not there does not matter. -/
lemma Retains.congr {wanted' : Lease → Bool} (hk : Retains wanted i i')
    (h : ∀ l, wanted l = wanted' l) : Retains wanted' i i' := by
  obtain rfl : wanted = wanted' := funext h
  exact hk

end Interface

namespace Service

variable {s s' : Service} {name : String} {i : Interface} {w : List (SiteKey × Pending)}
  {time : Timestamp} {seen es : List StoredLease} {e : StoredLease}
  {state : ℕ × SortedMap String Interface}

/-! ## Entries -/

/-- No entry is written twice. -/
lemma nodup_entries (h : s.Tracked w) : s.entries.Nodup := by
  rw [entries, List.nodup_flatMap]
  constructor
  · rintro ⟨name, i⟩ hi
    refine ((h.sound (SortedMap.mem_toList_iff.1 hi)).interface.nodup_leases).map ?_
    intro l m heq
    exact (StoredLease.mk.inj heq).2
  · refine s.interfaces.ascending.imp ?_
    rintro ⟨name, i⟩ ⟨name', i'⟩ hlt e he he'
    obtain ⟨l, -, rfl⟩ := List.mem_map.1 he
    obtain ⟨l', -, heq⟩ := List.mem_map.1 he'
    obtain rfl : name' = name := (StoredLease.mk.inj heq).1
    simp [Std.ReflOrd.compare_self] at hlt

/-- The entries of a service whose interfaces hold some of the leases of another one's. -/
lemma entries_eq_filter {p : Lease → Bool}
    (h : ∀ name, (s'.interfaces.get? name).map Interface.leases =
      (s.interfaces.get? name).map fun i => i.leases.filter p) :
    s'.entries = s.entries.filter fun e => p e.lease := by
  have hleases : s'.interfaces.mapValues Interface.leases =
      s.interfaces.mapValues fun i => i.leases.filter p := by
    apply SortedMap.ext_get?
    intro name
    rw [SortedMap.get?_mapValues, SortedMap.get?_mapValues, h]
  rw [entries_eq_flatMap, hleases, entries, List.filter_flatMap]
  simp [SortedMap.mapValues, List.flatMap_map, List.filter_map, Function.comp_def]

lemma leases_eq_map_entries (s : Service) : s.leases = s.entries.map (·.lease) := by
  simp [leases, entries, SortedMap.values, List.flatMap_map, List.map_flatMap, Function.comp_def]

/-! ## Restoring entries -/

/-- How far the leases of a service have been restored: those of the entries that have been seen,
unless they have expired. -/
structure Refilled (s : Service) (time : Timestamp) (seen : List StoredLease)
    (state : ℕ × SortedMap String Interface) : Prop where
  count : state.1 = (seen.filter fun e => !e.lease.isExpiredAt time).length
  absent : ∀ {name}, s.interfaces.get? name = none → state.2.get? name = none
  holds : ∀ {name i}, s.interfaces.get? name = some i → ∃ i', state.2.get? name = some i' ∧
    i.Retains (fun l => ⟨name, l⟩ ∈ seen && !l.isExpiredAt time) i'

namespace Refilled

/-- Before the first entry all interfaces are as they are configured. -/
lemma interfacesOf {c : Config} {disk : Disk}
    (h : Moved ⟨c, Service.interfacesOf c, disk, false, none, none⟩ s [] w) :
    Refilled s time [] (0, Service.interfacesOf c) := by
  refine ⟨rfl, ?_, ?_⟩
  · intro name hi
    rw [Option.eq_none_iff_forall_ne_some]
    intro i₀ hi₀
    obtain ⟨i, hi', -⟩ := h.desk hi₀
    rw [hi] at hi'
    cases hi'
  · intro name i hi
    cases hi₀ : (Service.interfacesOf c).get? name with
    | none =>
      rw [h.absent hi₀] at hi
      cases hi
    | some i₀ =>
      obtain ⟨i', hi', hrun⟩ := h.desk hi₀
      obtain rfl := Option.some.inj (hi'.symm.trans hi)
      obtain ⟨ic, -, rfl⟩ := eq_ofConfig_of_interfacesOf hi₀
      have hsound := Desk.Sound.ofConfig name ic c.probeTimeoutMillis.toNat
      refine ⟨_, rfl, hsound.interface, (hsound.run hrun).2.symm, ?_⟩
      intro ip
      rw [Interface.leaseByIp_ofConfig]
      cases i'.leaseByIp ip <;> simp [Option.filter_some]

/-- An entry whose lease has expired changes nothing. -/
lemma skip (hr : Refilled s time seen state) (hexpired : e.lease.isExpiredAt time = true) :
    Refilled s time (seen ++ [e]) state := by
  refine ⟨?_, hr.absent, ?_⟩
  · rw [hr.count, List.filter_append]
    simp [hexpired]
  · intro name i hi
    obtain ⟨i', hi', hk⟩ := hr.holds hi
    refine ⟨i', hi', hk.congr ?_⟩
    intro l
    by_cases heq : StoredLease.mk name l = e
    · subst heq
      simp [hexpired]
    · simp [heq]

/-- An entry whose lease has been added is one more. -/
lemma add {i'' : Interface} (hr : Refilled s time seen state)
    (hexpired : e.lease.isExpiredAt time = false) (hi : s.interfaces.get? e.interface = some i)
    (hk : i.Retains
      (fun l => l = e.lease || (⟨e.interface, l⟩ ∈ seen && !l.isExpiredAt time)) i'') :
    Refilled s time (seen ++ [e]) (state.1 + 1, state.2.insert e.interface i'') := by
  refine ⟨?_, ?_, ?_⟩
  · rw [hr.count, List.filter_append]
    simp [hexpired]
  · intro name hnone
    have hne : name ≠ e.interface := by
      rintro rfl
      rw [hi] at hnone
      cases hnone
    rw [SortedMap.get?_insert, if_neg hne]
    exact hr.absent hnone
  · intro name j hj
    rw [SortedMap.get?_insert]
    split
    · next heq =>
      subst heq
      obtain rfl := Option.some.inj (hi.symm.trans hj)
      refine ⟨i'', rfl, hk.congr ?_⟩
      intro l
      by_cases heq : l = e.lease
      · subst heq
        simp [hexpired]
      · have hother : StoredLease.mk e.interface l ≠ e := fun h => heq (congrArg (·.lease) h)
        simp [heq, hother]
    · next hne =>
      obtain ⟨j', hj', hk'⟩ := hr.holds hj
      refine ⟨j', hj', hk'.congr ?_⟩
      intro l
      have hother : StoredLease.mk name l ≠ e := fun heq => hne (congrArg (·.interface) heq)
      simp [hother]

/-- An entry is restored, unless its lease has expired. -/
lemma restoreEntry (hr : Refilled s time seen state) (h : s.Tracked w) (he : e ∈ s.entries)
    (hnew : e ∉ seen) : Refilled s time (seen ++ [e]) (Service.restoreEntry time state e) := by
  obtain ⟨i, hi, hl⟩ := mem_entries_iff.1 he
  obtain ⟨i', hi', hk⟩ := hr.holds hi
  cases hexpired : e.lease.isExpiredAt time with
  | true =>
    have hsame : Service.restoreEntry time state e = state := by
      simp only [Service.restoreEntry, hi', hexpired, if_true]
    rw [hsame]
    exact hr.skip hexpired
  | false =>
    obtain ⟨i'', hadd, hk''⟩ := hk.addLease (h.sound hi).interface hl (by simp [hnew])
    have hrestored : Service.restoreEntry time state e =
        (state.1 + 1, state.2.insert e.interface i'') := by
      simp only [Service.restoreEntry, hi', hexpired, Bool.false_eq_true, if_false, hadd]
    rw [hrestored]
    exact hr.add hexpired hi hk''

/-- All entries are restored, one after another. -/
lemma restoreEntries (hr : Refilled s time seen state) (h : s.Tracked w)
    (hes : s.entries = seen ++ es) :
    Refilled s time s.entries (es.foldl (Service.restoreEntry time) state) := by
  -- by induction on the entries that have not been seen
  induction es generalizing seen state with
  | nil =>
    rw [List.append_nil] at hes
    rwa [hes]
  | cons e rest ih =>
    have hnodup : (seen ++ e :: rest).Nodup := hes ▸ nodup_entries h
    have hnew : e ∉ seen := by
      intro hseen
      exact (List.nodup_append.1 hnodup).2.2 e hseen e (by simp) rfl
    refine ih (hr.restoreEntry h (by simp [hes]) hnew) ?_
    rw [hes, List.append_assoc, List.singleton_append]

/-- Once all entries have been seen, all leases are held that have not expired. -/
lemma leases (hr : Refilled s time s.entries state) (h : s.Tracked w) (name : String) :
    (state.2.get? name).map Interface.leases = (s.interfaces.get? name).map fun i =>
      i.leases.filter fun l => !l.isExpiredAt time := by
  cases hi : s.interfaces.get? name with
  | none => rw [hr.absent hi, Option.map_none, Option.map_none]
  | some i =>
    obtain ⟨i', hi', hk⟩ := hr.holds hi
    rw [hi', Option.map_some, Option.map_some, hk.leases (h.sound hi).interface]
    congr 1
    apply List.filter_congr
    intro l hl
    have hmem : StoredLease.mk name l ∈ s.entries := mem_entries_iff.2 ⟨i, hi, hl⟩
    simp [hmem]

end Refilled

/-! ## Starting again -/

lemma save_of_canWrite (hfile : s.config.leasesFile ≠ "") (hwrite : s.CanWrite) (now : ℕ) :
    ∃ s', s.save now = (.ok (), s') ∧
      s'.disk.readText s.config.leasesFile = some (LeaseFile.render s.entries) := by
  have hpath : s.disk.locate s.config.leasesFile = .file s.filePath := hwrite
  have hwritten := Disk.writeText_of_locate hpath (LeaseFile.render s.entries)
  exact ⟨_, save_of_writeText hfile hwritten now, Disk.readText_of_writeText hwritten⟩

/-- A service with a checked configuration starts with what the entries of its lease file are
restored to. -/
lemma start_of_parse? {c : Config} {disk : Disk} {text : String} (hvalid : c.validate = .ok ())
    (hfile : c.leasesFile ≠ "") (htext : disk.readText c.leasesFile = some text)
    (hes : LeaseFile.parse? text = some es) (now : ℕ) :
    let restored := es.foldl (restoreEntry (.ofMillis now)) (0, Service.interfacesOf c)
    start now c disk = .ok (restored.1, ⟨c, restored.2, disk, false, none, none⟩) := by
  have hnamed : c.leasesFile.isEmpty = false := by simpa using hfile
  have hthere : disk.hasPath c.leasesFile = true := Disk.hasPath_of_readText htext
  simp only [start, hvalid, restore, hnamed, hthere, htext, hes]
  rfl

/-- A service that starts with the file of another one of the same configuration has all of its
leases that have not expired. -/
lemma start_of_written {c : Config} {disk disk' : Disk} (hvalid : c.validate = .ok ())
    (hfile : c.leasesFile ≠ "")
    (hmoved : Moved ⟨c, Service.interfacesOf c, disk, false, none, none⟩ s [] w) (h : s.Tracked w)
    (ht : s.Timely) (htext : disk'.readText c.leasesFile = some (LeaseFile.render s.entries))
    (now : ℕ) :
    ∃ s', start now c disk' = .ok (s'.leases.length, s') ∧
      ∀ name, (s'.interfaces.get? name).map Interface.leases =
        (s.interfaces.get? name).map fun i =>
          i.leases.filter fun l => !l.isExpiredAt (.ofMillis now) := by
  have hstart := start_of_parse? hvalid hfile htext (ht.parse?_render_entries h) now
  have hinit : Refilled s (.ofMillis now) [] (0, Service.interfacesOf c) := .interfacesOf hmoved
  have hrefilled := hinit.restoreEntries h (List.nil_append s.entries).symm
  rcases hrestored : s.entries.foldl (Service.restoreEntry (.ofMillis now))
    (0, Service.interfacesOf c) with ⟨count, interfaces⟩
  rw [hrestored] at hrefilled hstart
  let s' : Service := ⟨c, interfaces, disk', false, none, none⟩
  have hleases := hrefilled.leases h
  have hentries : s'.entries = s.entries.filter fun e => !e.lease.isExpiredAt (.ofMillis now) :=
    entries_eq_filter (p := fun l => !l.isExpiredAt (.ofMillis now)) hleases
  have hcount : count = s'.leases.length := by
    rw [leases_eq_map_entries, List.length_map, hentries]
    exact hrefilled.count
  exact ⟨s', hcount ▸ hstart, hleases⟩

end Service

namespace Site

open Service

variable {x₀ x : Site} {s₀ : Service} {w : List (SiteKey × Pending)}

/-- **Leases outlive a restart.** Whatever has happened to a service, once it has saved its leases,
a service that starts with the file of the same configuration, at whatever time, has on every
interface the leases that have not expired, and counts as many. No expiry is beyond the calendar as
long as no operator enters one. -/
theorem leases_outlive_restart {c : Config} {disk : Disk} {now count : ℕ}
    (hstart : Service.start now c disk = .ok (count, s₀)) (hfile : c.leasesFile ≠ "")
    (hx₀ : x₀.service = .ok s₀) (hrun : Runs (fun _ e => e.Timely) (x₀, []) (x, w)) :
    ∃ s, x.service = .ok s ∧ s.config = c ∧ (s.CanWrite →
      ∃ s₁ text, s.save x.clock = (.ok (), s₁) ∧ s₁.disk.readText c.leasesFile = some text ∧
        ∀ time disk', disk'.readText c.leasesFile = some text →
          ∃ s₂, Service.start time c disk' = .ok (s₂.leases.length, s₂) ∧
            ∀ name, (s₂.interfaces.get? name).map Interface.leases =
              (s.interfaces.get? name).map fun i =>
                i.leases.filter fun l => !l.isExpiredAt (.ofMillis time)) := by
  obtain ⟨hvalid, -⟩ := start_eq_ok hstart
  obtain ⟨interfaces, hs₀, hrestored⟩ := start_cases hstart
  have hconfig₀ : s₀.config = c := by rw [hs₀]
  have htracked₀ : s₀.Tracked [] := Tracked.start hstart
  obtain ⟨s, hx, hconfig, htracked, ht⟩ := hrun.timely hx₀ htracked₀ (Timely.start hstart)
  obtain ⟨s', hx', hmoved⟩ := hrun.moved hx₀ htracked₀
  obtain rfl := Except.ok.inj (hx.symm.trans hx')
  rw [hconfig₀] at hconfig
  refine ⟨s, hx, hconfig, ?_⟩
  intro hwrite
  rw [← hconfig] at hfile
  obtain ⟨s₁, hsave, htext⟩ := save_of_canWrite hfile hwrite x.clock
  rw [hconfig] at htext hfile
  refine ⟨s₁, _, hsave, htext, ?_⟩
  intro time disk' htext'
  exact start_of_written hvalid hfile (hrestored.trans hmoved) htracked ht htext' time

/-- Of two leases that an operator has added, the one that has run out is not restored. -/
theorem exists_leases_outlive_restart : ∃ s₀ s s₁ s₂ : Service, ∃ x : Site,
    Service.start 0 .default (.ofFiles []) = .ok (0, s₀) ∧
      Runs (fun _ e => e.Timely) (⟨0, .default, .ok s₀⟩, []) (x, []) ∧ x.service = .ok s ∧
      s.leases.length = 2 ∧ s.save x.clock = (.ok (), s₁) ∧
      Service.start 100000 .default s₁.disk = .ok (1, s₂) := by
  let printer : Lease := .static (.v4 (.ofBytes 192 168 1 50)) ⟨[2, 0, 0, 0, 0, 1]⟩ "printer"
  let guest : Lease :=
    ⟨.v4 (.ofBytes 192 168 1 100), ⟨[2, 0, 0, 0, 0, 2]⟩, "guest", some ⟨60, 0⟩, false⟩
  let s₀ : Service :=
    ⟨.default, Service.interfacesOf .default, .ofFiles [], false, none, none⟩
  let x₀ : Site := ⟨0, .default, .ok s₀⟩
  let x₁ : Site := (world.submit (.addLease printer) x₀).2
  let x : Site := (world.submit (.addLease guest) x₁).2
  have hstart : Service.start 0 .default (.ofFiles []) = .ok (0, s₀) := by decide +kernel
  have hprinter : Event.Timely (.submit (.addLease printer)) := by
    intro l hl t ht
    obtain rfl := Option.some.inj hl
    cases ht
  have hguest : Event.Timely (.submit (.addLease guest)) := by
    intro l hl t ht
    obtain rfl := Option.some.inj hl
    obtain rfl := Option.some.inj ht
    exact ⟨by decide +kernel, by decide⟩
  have hrun : Runs (fun _ e => e.Timely) (x₀, []) (x, []) :=
    .tail (.single ⟨_, hprinter, .submit (.addLease printer) x₀ []⟩)
      ⟨_, hguest, .submit (.addLease guest) x₁ []⟩
  obtain ⟨s, hx, -, hsaved⟩ := leases_outlive_restart hstart (by decide) rfl hrun
  have hs : s = (Site.submitService 0 (.addLease guest)
      (Site.submitService 0 (.addLease printer) s₀).2).2 := Except.ok.inj (hx.symm.trans rfl)
  have hwrite : s.CanWrite := by
    rw [hs]
    unfold CanWrite
    decide +kernel
  obtain ⟨s₁, text, hsave, htext, hrestart⟩ := hsaved hwrite
  obtain ⟨s₂, hstart₂, hleases⟩ := hrestart 100000 s₁.disk htext
  have hcount : s₂.leases.length = 1 := by
    rw [leases_eq_map_entries, List.length_map, entries_eq_filter hleases, hs]
    decide +kernel
  refine ⟨s₀, s, s₁, s₂, x, hstart, hrun, hx, ?_, hsave, hcount ▸ hstart₂⟩
  rw [hs]
  decide +kernel

end Site

end DhcpLeasing
