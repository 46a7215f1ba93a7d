import DhcpLeasing.Proofs.Disk
import DhcpLeasing.Proofs.Service.Expiries

/-!
# The lease file keeps up

A change makes the lease file out of date, and the service knows it: whenever it does not hold the
file for out of date, the file holds the leases, or they are still those that were restored. When
the file is written, and when it is not, is told step by step: `Saves`.
-/

namespace DhcpLeasing

namespace Service

variable {s s' s₁ : Service} {now : ℕ} {w w' : List (SiteKey × Pending)}

/-! ## Writing -/

/-- Where the lease file is, if there can be one. -/
def filePath (s : Service) : String :=
  (Disk.Path.ofText s.config.leasesFile).toText

/-- What the lease file holds. -/
def fileContent (s : Service) : Option FileContent :=
  s.disk.files.get? s.filePath

/-- Whether there can be a lease file as things are. -/
def CanWrite (s : Service) : Prop :=
  s.disk.locate s.config.leasesFile = .file s.filePath

/-- Whether the last write, if there was one, is long enough ago for another one. -/
def Due (now : ℕ) (s : Service) : Prop :=
  ∀ last, s.lastSave = some last → s.config.saveIntervalMillis.toNat ≤ now - last

/-- The leases have been written. -/
structure Wrote (now : ℕ) (s s' : Service) : Prop where
  files : s'.disk.files =
    s.disk.files.insert s.filePath (.text (LeaseFile.render s'.entries))
  clean : s'.dirty = false
  lastSave : s'.lastSave = some now

/-- Nothing has been written, and a file that is out of date has stayed so. -/
structure Kept (s s' : Service) : Prop where
  files : s'.disk.files = s.disk.files
  lastSave : s'.lastSave = s.lastSave
  dirty : s.dirty → s'.dirty

/-- A write has been attempted: either it has succeeded as a whole, or nothing has been written. -/
def Attempted (now : ℕ) (s s' : Service) : Prop :=
  (s'.CanWrite ∧ Wrote now s s') ∨ (¬ s'.CanWrite ∧ Kept s s')

lemma isSaveDue_iff : s.isSaveDue now = true ↔ s.Due now := by
  simp [isSaveDue, Due, Option.all_eq_true]

lemma save_attempted (hfile : s.config.leasesFile ≠ "") (now : ℕ) :
    Attempted now s (s.save now).2 := by
  have hnamed : ¬ s.config.leasesFile.isEmpty = true := by simpa using hfile
  rw [save, if_neg hnamed]
  rcases s.disk.locate_cases s.config.leasesFile with hpath | hnot
  · rw [Disk.writeText_of_locate hpath]
    exact .inl ⟨hpath, rfl, rfl, rfl⟩
  · rw [Disk.writeText_of_locate_ne hnot]
    exact .inr ⟨hnot _, rfl, rfl, id⟩

/-- A write that succeeds is a save. -/
lemma save_of_writeText {disk : Disk} (hfile : s.config.leasesFile ≠ "")
    (hwrite : s.disk.writeText s.config.leasesFile (LeaseFile.render s.entries) = some disk)
    (now : ℕ) : s.save now = (.ok (), { s with disk, dirty := false, lastSave := some now }) := by
  have hnamed : ¬ s.config.leasesFile.isEmpty = true := by simpa using hfile
  rw [save, if_neg hnamed, hwrite]

section Kept

variable {t : Service}

lemma Kept.trans (h₁ : Kept s t) (h₂ : Kept t s') : Kept s s' :=
  ⟨h₂.files.trans h₁.files, h₂.lastSave.trans h₁.lastSave, fun h => h₂.dirty (h₁.dirty h)⟩

lemma Wrote.of_kept (hkept : Kept s t) (hconfig : t.config = s.config) (h : Wrote now t s') :
    Wrote now s s' := by
  refine ⟨?_, h.clean, h.lastSave⟩
  rw [h.files, hkept.files, filePath, hconfig, filePath]

lemma Attempted.of_kept (hkept : Kept s t) (hconfig : t.config = s.config)
    (h : Attempted now t s') : Attempted now s s' :=
  h.imp (And.imp_right (.of_kept hkept hconfig)) (And.imp_right hkept.trans)

end Kept

lemma Attempted.dirty (h : Attempted now s s') (hdirty : s.dirty) :
    s'.dirty ∨ Wrote now s s' := by
  rcases h with ⟨-, hwrote⟩ | ⟨-, hkept⟩
  · exact .inr hwrote
  · exact .inl (hkept.dirty hdirty)

/-- The service that has taken note of what may be a change, before it saves. -/
lemma kept_noted (s : Service) (changed : Bool) :
    Kept s { s with dirty := s.dirty || changed } := by
  refine ⟨rfl, rfl, ?_⟩
  intro hdirty
  simp [hdirty]

lemma noteChange_eq (now : ℕ) (changed : Bool) (s : Service) : s.noteChange now changed =
    if (s.dirty || changed) && s.isSaveDue now then
      (save now { s with dirty := s.dirty || changed }).2
    else { s with dirty := s.dirty || changed } := rfl

lemma noteChange_due {changed : Bool} (hfile : s.config.leasesFile ≠ "") (hdue : s.Due now)
    (hdirty : s.dirty ∨ changed) : Attempted now s (s.noteChange now changed) ∧
      ((s.noteChange now changed).dirty ∨ Wrote now s (s.noteChange now changed)) := by
  have hnoted : (s.dirty || changed) = true := by simpa using hdirty
  have hkept := s.kept_noted changed
  rw [hnoted] at hkept
  rw [noteChange_eq, isSaveDue_iff.2 hdue, hnoted]
  have hattempted := save_attempted (s := { s with dirty := true }) hfile now
  exact ⟨hattempted.of_kept hkept rfl, (hattempted.dirty rfl).imp_right (.of_kept hkept rfl)⟩

lemma noteChange_later {changed : Bool} (h : ¬ (s.Due now ∧ (s.dirty ∨ changed))) :
    Kept s (s.noteChange now changed) ∧ (changed → (s.noteChange now changed).dirty) := by
  rw [and_comm, ← Bool.or_eq_true, ← isSaveDue_iff, ← Bool.and_eq_true] at h
  rw [noteChange_eq, if_neg h]
  refine ⟨s.kept_noted changed, ?_⟩
  intro hchanged
  simp [hchanged]

lemma entries_finish (now : ℕ) (saving : Saving) (s : Service) :
    (s.finish now saving).entries = s.entries := by
  apply entries_eq_of_leases
  intro name
  cases saving <;> simp [finish]

lemma SameStore.kept (h : SameStore s s₁) : Kept s s₁ :=
  ⟨by rw [h.disk], h.lastSave, by rw [h.dirty]; exact id⟩

end Service

/-! ## Steps -/

namespace Site

open Service

variable {x x' : Site} {s s' s₀ s₁ : Service} {w w' : List (SiteKey × Pending)} {e : Event}

/-- What a step does about the lease file. -/
structure Saves (e : Event) (x : Site) (s s' : Service) : Prop where
  whole : Wrote (e.time x) s s' ∨ Kept s s'
  changed : s'.entries ≠ s.entries → s'.dirty ∨ Wrote (e.time x) s s'
  throttled : ¬ e.savesAtOnce → ¬ s.Due (e.time x) → Kept s s'
  due : s.Due (e.time x) → (s'.entries ≠ s.entries ∨ e.grants x ∨ (s.dirty ∧ e.makesPass x s)) →
    Attempted (e.time x) s s' ∧ (s'.dirty ∨ Wrote (e.time x) s s')
  atOnce : e.savesAtOnce → Attempted (e.time x) s s'

/-- What it means that a file is not out of date without the service knowing it. -/
def UpToDate (s₀ s : Service) : Prop :=
  s.dirty = false →
    (s.lastSave = none ∧ s.entries = s₀.entries ∧ s.disk.files = s₀.disk.files) ∨
      s.fileContent = some (.text (LeaseFile.render s.entries))

lemma UpToDate.saves (h : UpToDate s₀ s) (hsaves : Saves e x s s')
    (hconfig : s'.config = s.config) :
    UpToDate s₀ s' := by
  intro hclean
  have hwritten : Wrote (e.time x) s s' →
      s'.fileContent = some (.text (LeaseFile.render s'.entries)) := by
    intro hwrote
    rw [fileContent, filePath, hconfig, hwrote.files, filePath, SortedMap.get?_insert, if_pos rfl]
  rcases hsaves.whole with hwrote | hkept
  · exact .inr (hwritten hwrote)
  · by_cases hentries : s'.entries = s.entries
    · have hbefore : s.dirty = false := by
        by_contra hdirty
        exact absurd (hkept.dirty (by simpa using hdirty)) (by simp [hclean])
      rw [hkept.lastSave, hkept.files, hentries, fileContent, filePath, hconfig, hkept.files]
      exact h hbefore
    · exact .inr (hwritten ((hsaves.changed hentries).resolve_left (by simp [hclean])))

section Saves

variable (hentries : s'.entries = s.entries) (hgrants : ¬ e.grants x) (hpass : ¬ e.makesPass x s)

include hentries hgrants hpass in
/-- There is no reason to write when nothing has changed and no pass is made. -/
lemma no_reason : ¬ (s'.entries ≠ s.entries ∨ e.grants x ∨ (s.dirty ∧ e.makesPass x s)) := by
  intro hreason
  rcases hreason with hne | h | h
  · exact hne hentries
  · exact hgrants h
  · exact hpass h.2

include hentries hgrants hpass in
lemma Saves.of_none (hsave : ¬ e.savesAtOnce) (h : Kept s s') : Saves e x s s' where
  whole := .inr h
  changed hne := absurd hentries hne
  throttled _ _ := h
  due _ hreason := absurd hreason (no_reason hentries hgrants hpass)
  atOnce hsave' := absurd hsave' hsave

include hentries hgrants hpass in
lemma Saves.of_save (hsave : e.savesAtOnce) (h : Attempted (e.time x) s s') : Saves e x s s' where
  whole := h.imp And.right And.right
  changed hne := absurd hentries hne
  throttled hnot := absurd hsave hnot
  due _ hreason := absurd hreason (no_reason hentries hgrants hpass)
  atOnce _ := h

lemma Saves.of_noteChange {changed : Bool} (hfile : s₁.config.leasesFile ≠ "") (hkept : Kept s s₁)
    (hconfig : s₁.config = s.config) (hdirty : s₁.dirty = s.dirty)
    (hs' : s' = s₁.noteChange (e.time x) changed) (hsave : ¬ e.savesAtOnce)
    (hchanged : s'.entries ≠ s.entries → changed = true) (hgranted : e.grants x → changed = true) :
    Saves e x s s' := by
  have hdue : s₁.Due (e.time x) ↔ s.Due (e.time x) := by
    rw [Due, hkept.lastSave, hconfig, Due]
  subst hs'
  by_cases hwrite : s₁.Due (e.time x) ∧ (s₁.dirty ∨ changed)
  · obtain ⟨hattempted, hfailed⟩ := noteChange_due hfile hwrite.1 hwrite.2
    have h := hattempted.of_kept hkept hconfig
    have hout := hfailed.imp_right (Wrote.of_kept hkept hconfig)
    refine ⟨h.imp And.right And.right, fun _ => hout, ?_, fun _ _ => ⟨h, hout⟩,
      fun h => absurd h hsave⟩
    intro _ hnot
    exact absurd (hdue.1 hwrite.1) hnot
  · obtain ⟨hlater, hdirtied⟩ := noteChange_later hwrite
    have h := hkept.trans hlater
    refine ⟨.inr h, fun hne => .inl (hdirtied (hchanged hne)), fun _ _ => h, ?_,
      fun h => absurd h hsave⟩
    intro hnow hreason
    refine absurd ⟨hdue.2 hnow, ?_⟩ hwrite
    rcases hreason with hne | hgrants | hpass
    · exact .inr (hchanged hne)
    · exact .inr (hgranted hgrants)
    · exact .inl (hdirty.trans hpass.1)

end Saves

lemma Responds.saves (h : Responds e x x' s w w') (hfile : s.config.leasesFile ≠ "")
    (hthrough : e.throughService x) (hnoted : Noted w) :
    ∃ s', x'.service = .ok s' ∧ s'.config = s.config ∧ Noted w' ∧ Saves e x s s' := by
  obtain ⟨s', disk, saving, s₁, hx', hturn, hsave, hpass, hnotes⟩ := h
  obtain ⟨hfiles, hchanged, hgranted, hnoted'⟩ := hnotes hthrough hnoted
  have hdisk : Kept s { s with disk } := ⟨hfiles, rfl, id⟩
  have hkept : Kept s s₁ := hdisk.trans hturn.store.kept
  have hconfig : s₁.config = s.config := hturn.store.config
  have hs' := hturn.finish
  have hentries : s'.entries = s₁.entries := hs' ▸ entries_finish _ saving s₁
  rw [← hentries] at hchanged
  rw [← hconfig] at hfile
  refine ⟨s', hx', hturn.moves.config, hnoted', ?_⟩
  have hquiet : (∀ changed, saving ≠ .note changed) →
      s'.entries = s.entries ∧ ¬ e.grants x ∧ ¬ e.makesPass x s := by
    intro hnot
    refine ⟨?_, fun h => hnot _ (hgranted h), ?_⟩
    · by_contra hne
      exact hnot _ (hchanged hne)
    · intro h
      obtain ⟨changed, heq⟩ := hpass h
      exact hnot changed heq
  cases saving with
  | none =>
    obtain ⟨hsame, hgrants, hpass⟩ := hquiet (by simp)
    exact .of_none hsame hgrants hpass (fun h => by simpa using hsave.2 h) (hs' ▸ hkept)
  | note changed =>
    exact .of_noteChange hfile hkept hconfig hturn.store.dirty hs'
      (fun h => by simpa using hsave.2 h) (fun hne => Saving.note.inj (hchanged hne))
      fun h => Saving.note.inj (hgranted h)
  | save =>
    obtain ⟨hsame, hgrants, hpass⟩ := hquiet (by simp)
    exact .of_save hsame hgrants hpass (hsave.1 rfl)
      (hs' ▸ (save_attempted hfile _).of_kept hkept hconfig)

/-! ## Runs -/

/-- **The lease file keeps up with the leases.** In every run of a service in which nothing goes
past it, whenever it does not hold its lease file for out of date, the file holds the leases, or
nothing has been written yet and they are still those that were restored. What is written is read as
the leases that it was written for, as long as no expiry is beyond the calendar. `Saves` says when
the next step writes: as soon as there is a reason and a write is due, or it is told to. -/
theorem file_keeps_up {c : Config} {disk : Disk} {now count : ℕ} {x₀ : Site}
    (hstart : Service.start now c disk = .ok (count, s₀)) (hfile : c.leasesFile ≠ "")
    (hx₀ : x₀.service = .ok s₀) (hrun : Runs Event.throughService (x₀, []) (x, w)) :
    ∃ s, x.service = .ok s ∧ s.config = c ∧ UpToDate s₀ s ∧
      (s.Timely → LeaseFile.parse? (LeaseFile.render s.entries) = some s.entries) ∧
      ∀ e x' w', e.throughService x → Step e (x, w) (x', w') →
        ∃ s', x'.service = .ok s' ∧ Saves e x s s' := by
  have htracked : s₀.Tracked [] := Tracked.start hstart
  have hstarted : s₀.config = c ∧ s₀.lastSave = none := by
    obtain ⟨interfaces, rfl, -⟩ := Service.start_cases hstart
    exact ⟨rfl, rfl⟩
  have hinit : s₀.config.leasesFile ≠ "" ∧ Noted [] ∧ UpToDate s₀ s₀ :=
    ⟨hstarted.1 ▸ hfile, by simp [Noted], fun _ => .inl ⟨hstarted.2, rfl, rfl⟩⟩
  obtain ⟨s, hx, hconfig, htracked', hnamed, hnoted, huptodate⟩ :=
    hrun.preserves (I := fun s w => s.config.leasesFile ≠ "" ∧ Noted w ∧ UpToDate s₀ s)
      (by
        intro e x x' s w w' hthrough _ hI hresponds
        obtain ⟨hnamed, hnoted, huptodate⟩ := hI
        obtain ⟨s', hx', hconfig, hnoted', hsaves⟩ := hresponds.saves hnamed hthrough hnoted
        exact ⟨s', hx', by rwa [hconfig], hnoted', huptodate.saves hsaves hconfig⟩)
      hx₀ htracked hinit
  refine ⟨s, hx, hconfig.trans hstarted.1, huptodate, fun ht => ht.parse?_render_entries htracked',
    ?_⟩
  intro e x' w' hthrough hstep
  obtain ⟨s', hx', -, -, hsaves⟩ :=
    (hstep.responds hx htracked').saves hnamed hthrough hnoted
  exact ⟨s', hx', hsaves⟩

/-- An operator adds a lease to the default deployment, and it is in the file, from which it can be
read again. -/
theorem exists_file_keeps_up : ∃ s₀ s : Service, ∃ x : Site,
    Service.start 0 .default (.ofFiles []) = .ok (0, s₀) ∧
      Runs Event.throughService (⟨0, .default, .ok s₀⟩, []) (x, []) ∧ x.service = .ok s ∧
      s.leases.length = 1 ∧ s.fileContent = some (.text (LeaseFile.render s.entries)) ∧
      LeaseFile.parse? (LeaseFile.render s.entries) = some s.entries := by
  let l : Lease := .static (.v4 (.ofBytes 192 168 1 50)) ⟨[2, 0, 0, 0, 0, 1]⟩ "printer"
  let s₀ : Service :=
    ⟨.default, Service.interfacesOf .default, .ofFiles [], false, none, none⟩
  let x₀ : Site := ⟨0, .default, .ok s₀⟩
  let x : Site := (world.submit (.addLease l) x₀).2
  have hstart : Service.start 0 .default (.ofFiles []) = .ok (0, s₀) := by decide +kernel
  have hrun : Runs Event.throughService (x₀, []) (x, []) :=
    .single ⟨.submit (.addLease l), trivial, .submit (.addLease l) x₀ []⟩
  obtain ⟨s, hx, -, huptodate, hread, -⟩ := file_keeps_up hstart (by decide) rfl hrun
  have hs : s = (Site.submitService 0 (.addLease l) s₀).2 := Except.ok.inj (hx.symm.trans rfl)
  have htimely : s.Timely := by
    rw [hs]
    refine (Timely.start hstart).submitService (Tracked.start hstart) 0 ?_
    intro m hm t ht
    obtain rfl := Option.some.inj hm
    cases ht
  refine ⟨s₀, s, x, hstart, hrun, hx, ?_, ?_, hread htimely⟩
  · rw [hs]
    decide +kernel
  · refine (huptodate (by rw [hs]; decide +kernel)).resolve_left ?_
    intro hnone
    rw [hs] at hnone
    exact absurd hnone.1 (by decide +kernel)

end Site

end DhcpLeasing
