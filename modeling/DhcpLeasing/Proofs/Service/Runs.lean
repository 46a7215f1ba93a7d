import DhcpLeasing.Proofs.Service.Turns

/-!
# Runs of a site

Whatever happens at a site whose service is up is a run of steps, each by an event: a command, a
step of an allocation that waits, other hands on the clock or on the disk. `Step.responds` says what
the service makes of an event, which is a turn. So along every run the interfaces of the service go
through steps of their desks, and `Runs.preserves` leaves it to a property of services to be kept by
turns. What a session does is such a run: `Runs.of_carryOut`.
-/

namespace DhcpLeasing

open Relation

namespace Site

/-- Something that happens at a site. -/
inductive Event where
  | setClock (time : ℕ)
  | setDisk (disk : Disk)
  | submit (c : SiteCommand)
  | resume (key : SiteKey) (p : Pending) (busy : Bool)
  | expire (key : SiteKey) (p : Pending)
  | withdraw (key : SiteKey) (p : Pending)

/-- A step of a site. Of the allocations that wait, any may go on. -/
inductive Step : Event → Site × List (SiteKey × Pending) → Site × List (SiteKey × Pending) → Prop
  | setClock (time : ℕ) (x : Site) (waiting : List (SiteKey × Pending)) :
      Step (.setClock time) (x, waiting) (world.setClock time x, waiting)
  | setDisk (disk : Disk) (x : Site) (waiting : List (SiteKey × Pending)) :
      Step (.setDisk disk) (x, waiting) (x.setDisk disk, waiting)
  | submit (c : SiteCommand) (x : Site) (waiting : List (SiteKey × Pending)) :
      Step (.submit c) (x, waiting) ((world.submit c x).2, (world.submit c x).1.suspend waiting)
  | resume (key : SiteKey) (p : Pending) (busy : Bool) (x : Site)
      (before after : List (SiteKey × Pending)) :
      Step (.resume key p busy) (x, before ++ (key, p) :: after)
        ((world.resume key p busy x).2, (world.resume key p busy x).1.suspend (before ++ after))
  | expire (key : SiteKey) (p : Pending) (x : Site) (before after : List (SiteKey × Pending)) :
      Step (.expire key p) (x, before ++ (key, p) :: after)
        ((world.expire key p x).2, before ++ after)
  | withdraw (key : SiteKey) (p : Pending) (x : Site) (before after : List (SiteKey × Pending)) :
      Step (.withdraw key p) (x, before ++ (key, p) :: after)
        (world.withdraw key p x, before ++ after)

/-- A run of steps by events that are allowed where they happen. -/
def Runs (allowed : Site → Event → Prop) :
    Site × List (SiteKey × Pending) → Site × List (SiteKey × Pending) → Prop :=
  ReflTransGen fun a b => ∃ e, allowed a.1 e ∧ Step e a b

/-! ## What an event is -/

namespace Event

/-- The time at which an event happens. -/
def time (x : Site) : Event → ℕ
  | .submit (.advance millis) => x.clock + millis
  | _ => x.clock

/-- Whether an event has the service save, be it due or not. -/
def savesAtOnce : Event → Prop
  | .submit c => Service.savesAtOnce c
  | _ => False

/-- Whether an event brings a pass over all leases: one that is asked for, or one of the background
reaper. -/
def makesPass (x : Site) (s : Service) : Event → Prop
  | .submit (.advance millis) => ∃ due, s.nextPass = some due ∧ due ≤ x.clock + millis
  | .submit c => s.makesPass c
  | _ => False

/-- Whether an event is a change of a lease that is carried out, or a lease that is granted. -/
def grants (x : Site) : Event → Prop
  | .submit c => ∃ l, (world.submit c x).1 = .replied (.lease (.ok l))
  | .resume key p busy => ∃ l, (world.resume key p busy x).1 = .replied (.lease (.ok l))
  | _ => False

/-- Whether an event leaves the files alone and does not go past the service to an interface. -/
def throughService (x : Site) : Event → Prop
  | .setDisk disk => disk.files = x.disk.files
  | .submit (.on _ _) => False
  | .submit (.putFile _) => False
  | .submit .deleteFile => False
  | _ => True

end Event

/-! ## What a service makes of an event -/

variable {x x' : Site} {s s' s₁ : Service} {w w' : List (SiteKey × Pending)} {e : Event}

/-- What it means that the service takes note of what becomes of the allocations that wait. -/
def Noted (waiting : List (SiteKey × Pending)) : Prop :=
  ∀ entry ∈ waiting, entry.1.noted

lemma Noted.suspend {activity : Activity SiteKey Reply} (hw : Noted w)
    (h : ∀ key p, activity = .waiting key p → key.noted) : Noted (activity.suspend w) := by
  intro entry hentry
  cases activity with
  | replied reply => exact hw entry hentry
  | waiting key p =>
    rcases List.mem_cons.1 hentry with rfl | hentry
    · exact h key p rfl
    · exact hw entry hentry

lemma Noted.middle {key : SiteKey} {p : Pending} {before after : List (SiteKey × Pending)}
    (h : Noted (before ++ (key, p) :: after)) : key.noted ∧ Noted (before ++ after) := by
  refine ⟨h (key, p) (by simp), ?_⟩
  intro entry hentry
  rcases List.mem_append.1 hentry with hentry | hentry
  · exact h entry (by simp [hentry])
  · exact h entry (by simp [hentry])

/-- What it means that a service leaves no change unnoted, when nothing has gone past it. -/
structure Notes (e : Event) (x : Site) (disk : Disk) (saving : Service.Saving) (s s₁ : Service)
    (w' : List (SiteKey × Pending)) : Prop where
  files : disk.files = s.disk.files
  changed : s₁.entries ≠ s.entries → saving = .note true
  granted : e.grants x → saving = .note true
  waiting : Noted w'

/-- What a service makes of an event: a turn, before which others may have changed the disk. -/
def Responds (e : Event) (x x' : Site) (s : Service) (w w' : List (SiteKey × Pending)) : Prop :=
  ∃ s' disk saving s₁, x'.service = .ok s' ∧
    Service.Turn (e.time x) saving { s with disk } s₁ s' w w' ∧
    (saving = .save ↔ e.savesAtOnce) ∧ (e.makesPass x s → ∃ changed, saving = .note changed) ∧
    (e.throughService x → Noted w → Notes e x disk saving s s₁ w')

section Equations

variable {clock : ℕ} {config : Config} {key : SiteKey} {p : Pending}

lemma resume_eq (busy : Bool) :
    world.resume key p busy ⟨clock, config, .ok s⟩ =
      ((s.resume clock key p busy).1, ⟨clock, config, .ok (s.resume clock key p busy).2⟩) := by
  cases hi : s.interfaces.get? key.interface <;>
    simp only [world, withService, Service.resume, hi]

lemma withdraw_eq :
    world.withdraw key p ⟨clock, config, .ok s⟩ = ⟨clock, config, .ok (s.withdraw key p)⟩ := by
  cases hi : s.interfaces.get? key.interface <;>
    simp only [world, withService, Service.withdraw, hi]

lemma expire_eq :
    (world.expire key p ⟨clock, config, .ok s⟩).2 = ⟨clock, config, .ok (s.withdraw key p)⟩ := by
  cases hi : s.interfaces.get? key.interface <;>
    simp only [world, withService, Service.withdraw, hi]

/-- Other hands write the file, or fail to. -/
lemma submit_putFile (text : String) :
    ∃ disk reply, world.submit (.putFile text) ⟨clock, config, .ok s⟩ =
      (.replied reply, ⟨clock, config, .ok { s with disk }⟩) ∧ ∀ l, reply ≠ .lease (.ok l) := by
  simp only [world, submit]
  cases (Site.mk clock config (.ok s)).disk.writeText config.leasesFile text with
  | some disk => exact ⟨disk, _, rfl, by simp⟩
  | none => exact ⟨s.disk, _, rfl, by simp⟩

/-- Other hands delete the file, or fail to. -/
lemma submit_deleteFile :
    ∃ disk reply, world.submit .deleteFile ⟨clock, config, .ok s⟩ =
      (.replied reply, ⟨clock, config, .ok { s with disk }⟩) ∧ ∀ l, reply ≠ .lease (.ok l) := by
  simp only [world, submit]
  cases (Site.mk clock config (.ok s)).disk.delete config.leasesFile with
  | some disk => exact ⟨disk, _, rfl, by simp⟩
  | none => exact ⟨s.disk, _, rfl, by simp⟩

end Equations

/-- Whatever happens, the interfaces of a service go through steps of their desks. -/
lemma Responds.moved (h : Responds e x x' s w w') :
    ∃ s', x'.service = .ok s' ∧ Service.Moved s s' w w' := by
  obtain ⟨s', disk, saving, s₁, hx', hturn, -⟩ := h
  have hdisk : Service.Moved s { s with disk } w w := ⟨rfl, id, fun hi => ⟨_, hi, .refl⟩⟩
  exact ⟨s', hx', hdisk.trans hturn.moves⟩

namespace Responds

/-- An event that is of no concern to the interfaces. -/
lemma quiet (disk : Disk) (hx' : x'.service = .ok { s with disk }) (hsave : ¬ e.savesAtOnce)
    (hpass : ¬ e.makesPass x s) (hgrants : ¬ e.grants x)
    (hfiles : e.throughService x → disk.files = s.disk.files) : Responds e x x' s w w := by
  refine ⟨_, disk, .none, _, hx', .idle (e.time x) _ w, iff_of_false (by simp) hsave,
    fun h => absurd h hpass, ?_⟩
  intro hthrough hnoted
  exact ⟨hfiles hthrough, fun hne => absurd rfl hne, fun h => absurd h hgrants, hnoted⟩

/-- A command about the file. -/
lemma file {clock : ℕ} {config : Config} {c : SiteCommand}
    (h : ∃ disk reply, world.submit c ⟨clock, config, .ok s⟩ =
      (.replied reply, ⟨clock, config, .ok { s with disk }⟩) ∧ ∀ l, reply ≠ .lease (.ok l))
    (hsave : ¬ Event.savesAtOnce (.submit c))
    (hpass : ¬ Event.makesPass ⟨clock, config, .ok s⟩ s (.submit c))
    (hfiles : Event.throughService ⟨clock, config, .ok s⟩ (.submit c) →
      (world.submit c ⟨clock, config, .ok s⟩).2.disk.files = s.disk.files) :
    Responds (.submit c) ⟨clock, config, .ok s⟩ (world.submit c ⟨clock, config, .ok s⟩).2 s w
      ((world.submit c ⟨clock, config, .ok s⟩).1.suspend w) := by
  obtain ⟨disk, reply, heq, hreply⟩ := h
  have hgrants : ¬ Event.grants ⟨clock, config, .ok s⟩ (.submit c) := by
    intro hgrants
    obtain ⟨l, hl⟩ := hgrants
    rw [heq] at hl
    exact hreply l (Activity.replied.inj hl)
  rw [heq] at hfiles ⊢
  exact .quiet disk rfl hsave hpass hgrants hfiles

/-- A command that the service carries out. -/
lemma submitService {c : SiteCommand} (h : s.Tracked w)
    (hx' : x'.service = .ok (submitService x.clock c s).2)
    (hactivity : (world.submit c x).1 = (Site.submitService x.clock c s).1)
    (htime : Event.time x (.submit c) = x.clock)
    (hpass : Event.makesPass x s (.submit c) → s.makesPass c)
    (hthrough : Event.throughService x (.submit c) → ∀ name command, c ≠ .on name command) :
    Responds (.submit c) x x' s w ((world.submit c x).1.suspend w) := by
  obtain ⟨saving, s₁, hturn, hsave, hnote, haccounted⟩ := Service.submitService_turn h x.clock c
  rw [hactivity]
  refine ⟨_, s.disk, saving, s₁, hx', htime ▸ hturn, hsave, fun h => hnote (hpass h), ?_⟩
  intro hservice hnoted
  have haccount := haccounted (hthrough hservice)
  refine ⟨rfl, haccount.changed, ?_, hnoted.suspend haccount.waiting⟩
  intro hgrants
  obtain ⟨l, hl⟩ := hgrants
  exact haccount.granted l (hactivity ▸ hl)

/-- The background reaper makes a pass when the clock has come to where it is due. -/
lemma advance {clock : ℕ} {config : Config} (s : Service) (w : List (SiteKey × Pending))
    (millis : ℕ) (hx : x = ⟨clock, config, .ok s⟩) :
    Responds (.submit (.advance millis)) x (world.submit (.advance millis) x).2 s w w := by
  subst hx
  let now := clock + millis
  have hservice : (world.submit (.advance millis) ⟨clock, config, .ok s⟩).2.service =
      .ok (s.passIfDue now) := rfl
  have hgrants : ¬ Event.grants ⟨clock, config, .ok s⟩ (.submit (.advance millis)) := by
    intro h
    obtain ⟨l, hl⟩ := h
    simp [world, submit] at hl
  unfold Service.passIfDue at hservice
  split at hservice
  · next hnext =>
    refine .quiet s.disk hservice id ?_ hgrants fun _ => rfl
    simp [Event.makesPass, hnext]
  · next due hnext =>
    split at hservice
    · next hlt =>
      refine .quiet s.disk hservice id ?_ hgrants fun _ => rfl
      simpa [Event.makesPass, hnext] using hlt
    · obtain ⟨hturn, hentries⟩ := Service.reaped_turn s now (.ofMillis now) _ w
      refine ⟨_, s.disk, _, _, hservice, hturn, iff_of_false (by simp) id, fun _ => ⟨_, rfl⟩, ?_⟩
      intro _ hnoted
      refine ⟨rfl, ?_, fun h => absurd h hgrants, hnoted⟩
      intro hne
      rw [decide_eq_true (hentries hne)]

section Waiting

variable {clock : ℕ} {config : Config} {key : SiteKey} {p : Pending}
  {before after : List (SiteKey × Pending)}

/-- An allocation that goes on. -/
lemma resume (h : s.Tracked (before ++ (key, p) :: after)) (busy : Bool) :
    Responds (.resume key p busy) ⟨clock, config, .ok s⟩
      ⟨clock, config, .ok (s.resume clock key p busy).2⟩ s (before ++ (key, p) :: after)
      ((s.resume clock key p busy).1.suspend (before ++ after)) := by
  obtain ⟨saving, s₁, hsave, hturn, haccounted⟩ := Service.resume_turn h clock busy
  refine ⟨_, s.disk, saving, s₁, rfl, hturn, iff_of_false hsave id, False.elim, ?_⟩
  intro _ hnoted
  obtain ⟨hkey, hothers⟩ := hnoted.middle
  have haccount := haccounted hkey
  refine ⟨rfl, haccount.changed, ?_, hothers.suspend haccount.waiting⟩
  intro hgrants
  obtain ⟨l, hl⟩ := hgrants
  rw [resume_eq] at hl
  exact haccount.granted l hl

/-- An allocation that ends without a lease. -/
lemma withdraw (hsave : ¬ e.savesAtOnce) (hpass : ¬ e.makesPass ⟨clock, config, .ok s⟩ s)
    (hgrants : ¬ e.grants ⟨clock, config, .ok s⟩) :
    Responds e ⟨clock, config, .ok s⟩ ⟨clock, config, .ok (s.withdraw key p)⟩ s
      (before ++ (key, p) :: after) (before ++ after) := by
  obtain ⟨s₁, hturn, hentries⟩ :=
    Service.withdraw_turn s (e.time ⟨clock, config, .ok s⟩) key p before after
  refine ⟨_, s.disk, _, s₁, rfl, hturn, iff_of_false (by simp) hsave, fun h => absurd h hpass, ?_⟩
  intro _ hnoted
  exact ⟨rfl, fun hne => absurd hentries hne, fun h => absurd h hgrants, hnoted.middle.2⟩

end Waiting

end Responds

/-- What a service makes of an event. -/
theorem Step.responds (hstep : Step e (x, w) (x', w')) (hx : x.service = .ok s)
    (h : s.Tracked w) : Responds e x x' s w w' := by
  obtain ⟨clock, config, service⟩ := x
  obtain rfl : service = .ok s := hx
  cases hstep with
  | setClock time => exact .quiet s.disk rfl id id id fun _ => rfl
  | setDisk disk => exact .quiet disk rfl id id id id
  | submit c =>
    cases c with
    | advance millis => exact .advance s w millis rfl
    | showFile => exact .file ⟨s.disk, _, rfl, by simp⟩ id id fun _ => rfl
    | putFile text => exact .file (submit_putFile text) id id False.elim
    | deleteFile => exact .file submit_deleteFile id id False.elim
    | startReaper => exact .submitService h rfl rfl rfl id (by simp)
    | on name command => exact .submitService h rfl rfl rfl id False.elim
    | _ => exact .submitService h rfl rfl rfl id (by simp)
  | resume key p busy _ before after =>
    rw [resume_eq]
    exact .resume h busy
  | expire key p _ before after =>
    rw [expire_eq]
    exact .withdraw id id id
  | withdraw key p _ before after =>
    rw [withdraw_eq]
    exact .withdraw id id id

end Site

/-! ## Starting -/

namespace Service

variable {s : Service} {c : Config} {disk : Disk} {now count : ℕ}

/-- Before anything is restored, an interface is as it is configured. -/
lemma eq_ofConfig_of_interfacesOf {name : String} {i : Interface}
    (hi : (Service.interfacesOf c).get? name = some i) :
    ∃ ic, c.interfaces.get? name = some ic ∧ i = .ofConfig name ic c.probeTimeoutMillis.toNat := by
  have hmem := SortedMap.mem_of_get?_ofList hi
  split at hmem
  · simp at hmem
  · obtain ⟨⟨name', ic⟩, hic, heq⟩ := List.mem_map.1 hmem
    obtain ⟨rfl, rfl⟩ := Prod.mk.inj heq
    exact ⟨ic, SortedMap.mem_toList_iff.1 (List.mem_filter.1 hic).1, rfl⟩

lemma Tracked.interfacesOf (c : Config) (disk : Disk) :
    Tracked ⟨c, Service.interfacesOf c, disk, false, none, none⟩ [] := by
  intro name i hi
  obtain ⟨ic, hic, rfl⟩ := eq_ofConfig_of_interfacesOf hi
  exact ⟨ic, hic, .refl⟩

/-- An entry of the lease file is restored by a command to its interface, if at all. -/
lemma restoreEntry_moved (s : Service) (time : Timestamp) (count : ℕ) (e : StoredLease) :
    Moved s { s with interfaces := (restoreEntry time (count, s.interfaces) e).2 } [] [] := by
  unfold restoreEntry
  cases hi : s.interfaces.get? e.interface with
  | none => exact .of_interfaces rfl rfl []
  | some i =>
    have hadd : ∀ r, InterfaceCommand.addLease e.lease ≠ .allocate r := by simp
    have hstep : Desk.Step ⟨i, []⟩ ⟨(i.addLease e.lease).2, []⟩ := .command 0 hadd i [] trivial
    simp only
    split
    · exact .of_interfaces rfl rfl []
    · split
      · next hresult =>
        rw [hresult] at hstep
        exact .setInterface hi (.single hstep) fun _ _ => rfl
      · exact .of_interfaces rfl rfl []

lemma restoreEntries_moved (s : Service) (time : Timestamp) (count : ℕ) (es : List StoredLease) :
    Moved s { s with interfaces := (es.foldl (restoreEntry time) (count, s.interfaces)).2 }
      [] [] := by
  induction es generalizing s count with
  | nil => exact .of_interfaces rfl rfl []
  | cons e rest ih =>
    exact (restoreEntry_moved s time count e).trans
      (ih { s with interfaces := (restoreEntry time (count, s.interfaces) e).2 } _)

lemma restore_cases {s' : Service} (h : restore now s = .ok (count, s')) :
    ∃ interfaces, s' = { s with interfaces } ∧ Moved s s' [] [] := by
  unfold restore at h
  split at h
  · obtain ⟨-, rfl⟩ := Prod.mk.inj (Except.ok.inj h)
    exact ⟨_, rfl, .of_interfaces rfl rfl []⟩
  · split at h
    · cases h
    · split at h
      · cases h
      · next entries _ =>
        obtain ⟨-, rfl⟩ := Prod.mk.inj (Except.ok.inj h)
        exact ⟨_, rfl, restoreEntries_moved s (.ofMillis now) 0 entries⟩

lemma start_eq_ok (h : start now c disk = .ok (count, s)) :
    c.validate = .ok () ∧
      restore now ⟨c, Service.interfacesOf c, disk, false, none, none⟩ = .ok (count, s) := by
  unfold start at h
  cases hvalid : c.validate with
  | error e =>
    rw [hvalid] at h
    cases h
  | ok u =>
    rw [hvalid] at h
    exact ⟨rfl, h⟩

/-- A service that has been started has made no change that it would have to save. -/
lemma start_cases (h : start now c disk = .ok (count, s)) :
    ∃ interfaces, s = ⟨c, interfaces, disk, false, none, none⟩ ∧
      Moved ⟨c, Service.interfacesOf c, disk, false, none, none⟩ s [] [] :=
  restore_cases (start_eq_ok h).2

lemma Tracked.start (h : start now c disk = .ok (count, s)) : s.Tracked [] := by
  obtain ⟨interfaces, rfl, hmoved⟩ := start_cases h
  exact Tracked.moved (Tracked.interfacesOf c disk) hmoved

end Service

/-! ## Along a run -/

namespace Site

/-- Whatever happens, a service that is up stays up. What every step keeps, along with that the
interfaces come about from the configuration, holds after every run. -/
theorem Runs.keeps {allowed : Site → Event → Prop} {I : Service → List (SiteKey × Pending) → Prop}
    (hI : ∀ {e x x' s w w'}, allowed x e → x.service = .ok s → s.Tracked w → I s w →
      Step e (x, w) (x', w') → ∃ s', x'.service = .ok s' ∧ I s' w')
    (hrun : Runs allowed (x, w) (x', w')) (hx : x.service = .ok s) (htracked : s.Tracked w)
    (h : I s w) :
    ∃ s', x'.service = .ok s' ∧ s'.config = s.config ∧ s'.Tracked w' ∧ I s' w' := by
  generalize hb : (x', w') = b at hrun
  -- by induction on the run, one step at its end at a time
  induction hrun generalizing x' w' with
  | refl =>
    cases hb
    exact ⟨s, hx, rfl, htracked, h⟩
  | @tail a _ _ hstep ih =>
    obtain ⟨s₁, hx₁, hconfig, htracked₁, h₁⟩ := ih (show (a.1, a.2) = a from rfl)
    obtain ⟨e, hallowed, hstep⟩ := hstep
    subst hb
    obtain ⟨s', hx', h'⟩ := hI hallowed hx₁ htracked₁ h₁ hstep
    obtain ⟨s'', hx'', hmoved⟩ := (hstep.responds hx₁ htracked₁).moved
    obtain rfl := Except.ok.inj (hx'.symm.trans hx'')
    exact ⟨s', hx', hmoved.config.trans hconfig, htracked₁.moved hmoved, h'⟩

/-- What services keep in what they make of any event holds after every run. -/
theorem Runs.preserves {allowed : Site → Event → Prop}
    {I : Service → List (SiteKey × Pending) → Prop}
    (hI : ∀ {e x x' s w w'}, allowed x e → s.Tracked w → I s w → Responds e x x' s w w' →
      ∃ s', x'.service = .ok s' ∧ I s' w')
    (hrun : Runs allowed (x, w) (x', w')) (hx : x.service = .ok s) (htracked : s.Tracked w)
    (h : I s w) :
    ∃ s', x'.service = .ok s' ∧ s'.config = s.config ∧ s'.Tracked w' ∧ I s' w' := by
  refine hrun.keeps (I := I) ?_ hx htracked h
  intro e x x' s w w' hallowed hx htracked h hstep
  exact hI hallowed htracked h (hstep.responds hx htracked)

/-- Along a run the interfaces of a service go through steps of their desks. -/
lemma Runs.moved {allowed : Site → Event → Prop} (hrun : Runs allowed (x, w) (x', w'))
    (hx : x.service = .ok s) (htracked : s.Tracked w) :
    ∃ s', x'.service = .ok s' ∧ Service.Moved s s' w w' := by
  obtain ⟨s', hx', -, -, hmoved⟩ := hrun.preserves (I := fun s' w' => Service.Moved s s' w w')
    (by
      intro e x x' s₁ w₁ w₂ _ _ hmoved hresponds
      obtain ⟨s₂, hx', hstep⟩ := hresponds.moved
      exact ⟨s₂, hx', hmoved.trans hstep⟩)
    hx htracked (.of_interfaces rfl rfl w)
  exact ⟨s', hx', hmoved⟩

/-- What a session does to a site is a run, whatever its prober has carried out. -/
theorem Runs.of_carryOut (s : Session Site SiteCommand Reply) (depth : ℕ)
    (outer : List (Option ℕ)) (c : SiteCommand) (w : List (SiteKey × Pending)) :
    Runs (fun _ _ => True) (s.world, w) ((Session.carryOut world depth outer c s).2.world, w) := by
  unfold Runs
  refine ReflTransGen.mono ?_ _ _ (Session.carryOut_steps world depth outer c s w)
  intro a b hstep
  cases hstep with
  | setClock time x w => exact ⟨_, trivial, .setClock time x w⟩
  | submit _ x w => exact ⟨_, trivial, .submit _ x w⟩
  | resume key p busy x w => exact ⟨_, trivial, .resume key p busy x [] w⟩
  | expire key p x w => exact ⟨_, trivial, .expire key p x [] w⟩
  | withdraw key p x w => exact ⟨_, trivial, .withdraw key p x [] w⟩

end Site

end DhcpLeasing
