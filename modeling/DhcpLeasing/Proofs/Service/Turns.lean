import DhcpLeasing.Proofs.Desk
import DhcpLeasing.Proofs.Interface.Command
import DhcpLeasing.Proofs.Session
import DhcpLeasing.Service.Command

/-!
# What a service does in one turn

Whatever a service does at one time, a command or a step of an allocation, it does in two parts.
First its interfaces go through steps of their desks, and nothing else changes; then it may take
note of what has changed, or save it. `submitService_turn` and `resume_turn` say so of all commands
and steps, with what the second part is: whoever wants to know something about services looks at
these and at no command.
-/

namespace DhcpLeasing

open Relation

/-- Whether a command is a change of one lease. -/
def SiteCommand.ChangesLease : SiteCommand → Prop
  | .release _ _ => True
  | .addLease _ => True
  | .editLease _ _ => True
  | .removeLease _ => True
  | _ => False

namespace Service

open Site

variable {s s' s₁ : Service} {name : String} {i i' : Interface}
  {w w' w₁ : List (SiteKey × Pending)} {now : ℕ}

/-! ## Interfaces side by side -/

/-- What it means that the interfaces of a service have gone through steps of their desks. `w` are
the allocations that wait before, and `w'` those that wait after. -/
structure Moved (s s' : Service) (w w' : List (SiteKey × Pending)) : Prop where
  config : s'.config = s.config
  absent : ∀ {name}, s.interfaces.get? name = none → s'.interfaces.get? name = none
  desk : ∀ {name i}, s.interfaces.get? name = some i → ∃ i', s'.interfaces.get? name = some i' ∧
    ReflTransGen Desk.Step ⟨i, waitingOn SiteKey.interface name w⟩
      ⟨i', waitingOn SiteKey.interface name w'⟩

namespace Moved

lemma of_interfaces (hconfig : s'.config = s.config) (h : s'.interfaces = s.interfaces)
    (w : List (SiteKey × Pending)) : Moved s s' w w := by
  refine ⟨hconfig, ?_, ?_⟩
  · intro name hi
    rwa [h]
  · intro name i hi
    exact ⟨i, by rwa [h], .refl⟩

lemma trans (h₁ : Moved s s₁ w w₁) (h₂ : Moved s₁ s' w₁ w') : Moved s s' w w' := by
  refine ⟨h₂.config.trans h₁.config, fun hi => h₂.absent (h₁.absent hi), ?_⟩
  intro name i hi
  obtain ⟨i₁, hi₁, hfirst⟩ := h₁.desk hi
  obtain ⟨i', hi', hlast⟩ := h₂.desk hi₁
  exact ⟨i', hi', hfirst.trans hlast⟩

/-- A run of the desk of one interface. -/
lemma setInterface (hi : s.interfaces.get? name = some i)
    (hrun : ReflTransGen Desk.Step ⟨i, waitingOn SiteKey.interface name w⟩
      ⟨i', waitingOn SiteKey.interface name w'⟩)
    (hothers : ∀ other, other ≠ name →
      waitingOn SiteKey.interface other w' = waitingOn SiteKey.interface other w) :
    Moved s (s.setInterface name i') w w' := by
  refine ⟨rfl, ?_, ?_⟩
  · intro other hother
    have hne : other ≠ name := by
      intro heq
      rw [heq, hi] at hother
      exact Option.some_ne_none _ hother
    rw [Service.setInterface, SortedMap.get?_insert, if_neg hne, hother]
  · intro other j hj
    rw [Service.setInterface, SortedMap.get?_insert]
    split
    · next heq =>
      subst heq
      obtain rfl := Option.some.inj (hi.symm.trans hj)
      exact ⟨i', rfl, hrun⟩
    · next hne => exact ⟨j, hj, hothers other hne ▸ .refl⟩

/-- A command to every interface. -/
lemma mapValues (now : ℕ) {command : InterfaceCommand} (hcommand : ∀ r, command ≠ .allocate r)
    (s : Service) (w : List (SiteKey × Pending)) :
    Moved s { s with interfaces :=
      s.interfaces.mapValues fun (i : Interface) => (i.submit now command).2 } w w := by
  refine ⟨rfl, ?_, ?_⟩
  · intro name hi
    rw [SortedMap.get?_mapValues, hi, Option.map_none]
  · intro name i hi
    refine ⟨(i.submit now command).2, ?_, .single (.command now hcommand i _ trivial)⟩
    rw [SortedMap.get?_mapValues, hi, Option.map_some]

end Moved

/-- What it means that the interfaces of a service, with the allocations that wait on them, have
come about from its configuration. -/
def Tracked (s : Service) (w : List (SiteKey × Pending)) : Prop :=
  ∀ {name i}, s.interfaces.get? name = some i → ∃ c, s.config.interfaces.get? name = some c ∧
    Desk.Reachable (.ofConfig name c s.config.probeTimeoutMillis.toNat)
      ⟨i, waitingOn SiteKey.interface name w⟩

lemma Tracked.sound (h : Tracked s w) (hi : s.interfaces.get? name = some i) :
    Desk.Sound ⟨i, waitingOn SiteKey.interface name w⟩ := by
  obtain ⟨c, -, hreach⟩ := h hi
  exact hreach.sound.1

lemma Tracked.moved (h : Tracked s w) (hmoved : Moved s s' w w') : Tracked s' w' := by
  intro name i' hi'
  cases hi : s.interfaces.get? name with
  | none =>
    rw [hmoved.absent hi] at hi'
    exact absurd hi'.symm (Option.some_ne_none _)
  | some i =>
    obtain ⟨c, hc, hreach⟩ := h hi
    obtain ⟨i'', hi'', hrun⟩ := hmoved.desk hi
    obtain rfl := Option.some.inj (hi''.symm.trans hi')
    rw [hmoved.config]
    exact ⟨c, hc, hreach.trans hrun⟩

/-! ## The two parts of a turn -/

/-- What a service does about its lease file in a turn: nothing, or it takes note of what may be a
change, or it saves. -/
inductive Saving where
  | none
  | note (changed : Bool)
  | save

/-- The service after the second part of a turn. -/
def finish (now : ℕ) : Saving → Service → Service
  | .none, s => s
  | .note changed, s => s.noteChange now changed
  | .save, s => (s.save now).2

@[simp] lemma interfaces_save (now : ℕ) (s : Service) :
    (s.save now).2.interfaces = s.interfaces := by
  unfold save
  split
  · rfl
  · split <;> rfl

@[simp] lemma config_save (now : ℕ) (s : Service) : (s.save now).2.config = s.config := by
  unfold save
  split
  · rfl
  · split <;> rfl

@[simp] lemma interfaces_noteChange (now : ℕ) (changed : Bool) (s : Service) :
    (s.noteChange now changed).interfaces = s.interfaces := by
  unfold noteChange
  simp only
  split
  · rw [interfaces_save]
  · rfl

@[simp] lemma config_noteChange (now : ℕ) (changed : Bool) (s : Service) :
    (s.noteChange now changed).config = s.config := by
  unfold noteChange
  simp only
  split
  · rw [config_save]
  · rfl

lemma nextPass_save (now : ℕ) (next : Option ℕ) (s : Service) :
    { (s.save now).2 with nextPass := next } = ({ s with nextPass := next }.save now).2 := by
  have hentries : { s with nextPass := next }.entries = s.entries := rfl
  unfold save
  simp only
  split
  · rfl
  · rw [hentries]
    cases s.disk.writeText s.config.leasesFile (LeaseFile.render s.entries) <;> rfl

/-- When the background reaper is due next has nothing to do with saving. -/
lemma nextPass_noteChange (now : ℕ) (next : Option ℕ) (changed : Bool) (s : Service) :
    { s.noteChange now changed with nextPass := next } =
      { s with nextPass := next }.noteChange now changed := by
  have hdue : isSaveDue now { s with nextPass := next, dirty := s.dirty || changed } =
      isSaveDue now { s with dirty := s.dirty || changed } := rfl
  unfold noteChange
  simp only
  rw [hdue]
  split
  · exact nextPass_save now next _
  · rfl

lemma Moved.finish (h : Moved s s₁ w w') (now : ℕ) (saving : Saving) :
    Moved s (s₁.finish now saving) w w' := by
  refine h.trans (.of_interfaces ?_ ?_ w')
  · cases saving <;> simp [Service.finish]
  · cases saving <;> simp [Service.finish]

/-- What the first part of a turn leaves alone. -/
structure SameStore (s s₁ : Service) : Prop where
  config : s₁.config = s.config
  disk : s₁.disk = s.disk
  dirty : s₁.dirty = s.dirty
  lastSave : s₁.lastSave = s.lastSave

/-- What a service does in one turn: `s₁` is the service between the two parts. -/
structure Turn (now : ℕ) (saving : Saving) (s s₁ s' : Service) (w w' : List (SiteKey × Pending)) :
    Prop where
  moved : Moved s s₁ w w'
  store : SameStore s s₁
  finish : s' = s₁.finish now saving

lemma Turn.moves {saving : Saving} (h : Turn now saving s s₁ s' w w') : Moved s s' w w' := by
  rw [h.finish]
  exact h.moved.finish now saving

/-- What it means that a turn leaves no change unnoted, nor a later one of an allocation that waits.
What a client or an operator has been granted counts as a change. -/
structure Accounted (saving : Saving) (s s₁ : Service) (activity : Activity SiteKey Reply) :
    Prop where
  changed : s₁.entries ≠ s.entries → saving = .note true
  granted : ∀ l, activity = .replied (.lease (.ok l)) → saving = .note true
  waiting : ∀ key p, activity = .waiting key p → key.noted

/-- A turn in which nothing happens. -/
lemma Turn.idle (now : ℕ) (s : Service) (w : List (SiteKey × Pending)) :
    Turn now .none s s s w w :=
  ⟨.of_interfaces rfl rfl w, ⟨rfl, rfl, rfl, rfl⟩, rfl⟩

lemma Accounted.idle {reply : Reply} (s : Service) (h : ∀ l, reply ≠ .lease (.ok l)) :
    Accounted .none s s (.replied reply) :=
  ⟨fun hne => absurd rfl hne, fun l hl => absurd (Activity.replied.inj hl) (h l), by simp⟩

/-! ## Entries -/

lemma mem_entries_iff {e : StoredLease} :
    e ∈ s.entries ↔ ∃ i, s.interfaces.get? e.interface = some i ∧ e.lease ∈ i.leases := by
  rw [entries, List.mem_flatMap]
  constructor
  · rintro ⟨⟨name, i⟩, hi, he⟩
    obtain ⟨l, hl, rfl⟩ := List.mem_map.1 he
    exact ⟨i, SortedMap.mem_toList_iff.1 hi, hl⟩
  · rintro ⟨i, hi, hl⟩
    exact ⟨(e.interface, i), SortedMap.mem_toList_iff.2 hi, List.mem_map.2 ⟨e.lease, hl, rfl⟩⟩

/-- The entries for the file depend on the leases of the interfaces only. -/
lemma entries_eq_flatMap (s : Service) : s.entries =
    (s.interfaces.mapValues Interface.leases).toList.flatMap fun e => e.2.map (⟨e.1, ·⟩) := by
  simp [entries, SortedMap.mapValues, List.flatMap_map]

lemma entries_eq_of_leases
    (h : ∀ name, (s'.interfaces.get? name).map Interface.leases =
      (s.interfaces.get? name).map Interface.leases) : s'.entries = s.entries := by
  have hleases : s'.interfaces.mapValues Interface.leases =
      s.interfaces.mapValues Interface.leases := by
    apply SortedMap.ext_get?
    intro name
    rw [SortedMap.get?_mapValues, SortedMap.get?_mapValues, h]
  rw [entries_eq_flatMap, entries_eq_flatMap, hleases]

lemma entries_setInterface (hi : s.interfaces.get? name = some i) (hleases : i'.leases = i.leases) :
    (s.setInterface name i').entries = s.entries := by
  apply entries_eq_of_leases
  intro other
  rw [setInterface, SortedMap.get?_insert]
  split
  · next heq => rw [heq, hi, Option.map_some, Option.map_some, hleases]
  · rfl

/-! ## Commands that change one lease -/

/-- Whether an operation on an interface is refused as it is, or carries out a command. -/
def Carries (i : Interface) (now : ℕ) (change : Except LeaseError Lease × Interface) : Prop :=
  (∃ e, change = (.error e, i)) ∨
    ∃ command, (∀ r, command ≠ .allocate r) ∧ i.submit now command = Interface.replyLease change

/-- An operation that fails leaves the interface as it is. -/
lemma Carries.eq_of_error (hi : i.Sound) {e : LeaseError} (h : Carries i now (.error e, i')) :
    i' = i := by
  rcases h with ⟨e', heq⟩ | ⟨command, -, heq⟩
  · exact (Prod.mk.inj heq).2
  · have hactivity : (i.submit now command).1 = .replied (.lease (.error e)) := by
      rw [heq]
      rfl
    have hrefused := Interface.submit_refused hi hactivity
    rwa [heq] at hrefused

lemma interfaceFor_eq_ok {ip : IpAddr} (h : s.interfaceFor ip = .ok (name, i)) :
    s.interfaces.get? name = some i := by
  unfold interfaceFor at h
  split at h
  · next entry hfind =>
    obtain rfl := Except.ok.inj h
    exact SortedMap.mem_toList_iff.1 (List.mem_of_find?_eq_some hfind)
  · simp at h

lemma changeLease_turn (h : Tracked s w) (ip : IpAddr)
    {change : Interface → Except LeaseError Lease × Interface}
    (hchange : ∀ i, Carries i now (change i)) :
    ∃ saving s₁, saving ≠ .save ∧ Turn now saving s s₁ (s.changeLease now ip change).2 w w ∧
      Accounted saving s s₁ (Site.replyLease (s.changeLease now ip change)).1 := by
  unfold changeLease
  cases hserves : s.interfaceFor ip with
  | error e => exact ⟨.none, s, by simp, .idle now s w, .idle s (by simp)⟩
  | ok found =>
    obtain ⟨name, i⟩ := found
    have hi := interfaceFor_eq_ok hserves
    rcases hresult : change i with ⟨result, i'⟩
    have hcarries := hchange i
    rw [hresult] at hcarries
    have hrun : ReflTransGen Desk.Step ⟨i, waitingOn SiteKey.interface name w⟩
        ⟨i', waitingOn SiteKey.interface name w⟩ := by
      rcases hcarries with ⟨e, heq⟩ | ⟨command, hcommand, heq⟩
      · obtain ⟨-, rfl⟩ := Prod.mk.inj heq
        exact .refl
      · have hstep : Desk.Step ⟨i, waitingOn SiteKey.interface name w⟩
            ⟨(i.submit now command).2, waitingOn SiteKey.interface name w⟩ :=
          .command now hcommand i _ trivial
        rw [heq] at hstep
        exact .single hstep
    have hmoved : Moved s (s.setInterface name i') w w :=
      .setInterface hi hrun fun _ _ => rfl
    simp only [hresult]
    cases result with
    | ok l => exact ⟨.note true, _, by simp, ⟨hmoved, ⟨rfl, rfl, rfl, rfl⟩, rfl⟩, by simp, by simp,
      by simp [Site.replyLease]⟩
    | error e =>
      have hsame : i' = i := hcarries.eq_of_error (h.sound hi).interface
      refine ⟨.none, _, by simp, ⟨hmoved, ⟨rfl, rfl, rfl, rfl⟩, rfl⟩, ?_,
        by simp [Site.replyLease], by simp [Site.replyLease]⟩
      intro hne
      exact absurd (entries_setInterface hi (by rw [hsame])) hne

/-- A command that changes one lease has the interface that serves an address do so. -/
lemma exists_change {c : SiteCommand} (hc : c.ChangesLease) (now : ℕ) :
    ∃ ip change, (∀ i, Carries i now (change i)) ∧
      ∀ s, Site.submitService now c s = Site.replyLease (s.changeLease now ip change) := by
  cases c with
  | release client ip =>
    exact ⟨ip, _, fun i => .inr ⟨.release client ip, by simp, rfl⟩, fun _ => rfl⟩
  | addLease l => exact ⟨l.ip, _, fun i => .inr ⟨.addLease l, by simp, rfl⟩, fun _ => rfl⟩
  | editLease old new =>
    refine ⟨old.ip, _, ?_, fun _ => rfl⟩
    intro i
    split
    · exact .inr ⟨.editLease old new, by simp, rfl⟩
    · exact .inl ⟨_, rfl⟩
  | removeLease l => exact ⟨l.ip, _, fun i => .inr ⟨.removeLease l, by simp, rfl⟩, fun _ => rfl⟩
  | _ => exact hc.elim

/-! ## Commands to one interface -/

lemma follow_noted {key : SiteKey} (h : key.noted = true) (i : Interface) (s : Service)
    (result : Except LeaseError Lease) :
    Site.follow now key i s (.replied (.lease result)) =
      (.replied (.lease result), (s.setInterface key.interface i).afterChange now result) := by
  simp only [Site.follow, h]

lemma follow_unnoted {key : SiteKey} {reply : Reply}
    (h : key.noted = false ∨ ∀ result, reply ≠ .lease result) (i : Interface) (s : Service) :
    Site.follow now key i s (.replied reply) =
      (.replied reply, s.setInterface key.interface i) := by
  cases hnoted : key.noted <;> cases reply <;> simp_all [Site.follow]

/-- The reply to a command is that of the interface. -/
lemma follow_fst (now : ℕ) (key : SiteKey) (i : Interface) (s : Service)
    (activity : Activity Unit Reply) :
    (Site.follow now key i s activity).1 = activity.under key := by
  cases activity with
  | waiting u p => rfl
  | replied reply =>
    cases hnoted : key.noted with
    | false => rw [follow_unnoted (.inl hnoted), Activity.under]
    | true =>
      cases reply with
      | lease result => rw [follow_noted hnoted, Activity.under]
      | _ => rw [follow_unnoted (.inr (by simp)), Activity.under]

/-- Only a lease that is granted is noted. -/
lemma follow_quiet {activity : Activity Unit Reply}
    (h : ∀ l, activity ≠ .replied (.lease (.ok l))) (now : ℕ) (key : SiteKey) (i : Interface)
    (s : Service) :
    (Site.follow now key i s activity).2 = s.setInterface key.interface i ∧
      ∀ l, (Site.follow now key i s activity).1 ≠ .replied (.lease (.ok l)) := by
  cases activity with
  | waiting u p => exact ⟨rfl, by simp [Site.follow]⟩
  | replied reply =>
    refine ⟨?_, by rw [follow_fst]; simpa [Activity.under] using h⟩
    cases hnoted : key.noted with
    | false => rw [follow_unnoted (.inl hnoted)]
    | true =>
      cases reply with
      | lease result =>
        rw [follow_noted hnoted]
        cases result with
        | ok l => exact absurd rfl (h l)
        | error e => rfl
      | _ => rw [follow_unnoted (.inr (by simp))]

/-- What follows when an interface has gone through a step of its desk. `w` are the allocations that
wait before the step, and `rest` those of them that wait after it in any case. -/
lemma follow_turn {key : SiteKey} {rest : List (SiteKey × Pending)} {activity : Activity Unit Reply}
    (hi : s.interfaces.get? key.interface = some i)
    (hstep : Desk.Step ⟨i, waitingOn SiteKey.interface key.interface w⟩
      ⟨i', activity.pendings (waitingOn SiteKey.interface key.interface rest)⟩)
    (hothers : ∀ name, name ≠ key.interface →
      waitingOn SiteKey.interface name rest = waitingOn SiteKey.interface name w)
    (hleases : key.noted → (∀ l, activity ≠ .replied (.lease (.ok l))) → i'.leases = i.leases) :
    ∃ saving s₁, saving ≠ .save ∧
      Turn now saving s s₁ (Site.follow now key i' s activity).2 w
        ((Site.follow now key i' s activity).1.suspend rest) ∧
      (key.noted → Accounted saving s s₁ (Site.follow now key i' s activity).1) := by
  have hmoved : Moved s (s.setInterface key.interface i') w
      ((Site.follow now key i' s activity).1.suspend rest) := by
    apply Moved.setInterface hi
    · rw [follow_fst, waitingOn_suspend_of_eq rfl]
      exact .single hstep
    · intro other hne
      rw [follow_fst, waitingOn_suspend_of_ne hne.symm, hothers other hne]
  have hstore : SameStore s (s.setInterface key.interface i') := ⟨rfl, rfl, rfl, rfl⟩
  by_cases hgranted : ∃ l, activity = .replied (.lease (.ok l))
  · obtain ⟨l, rfl⟩ := hgranted
    cases hnoted : key.noted with
    | false =>
      refine ⟨.none, _, by simp, ⟨hmoved, hstore, ?_⟩, by simp⟩
      rw [follow_unnoted (.inl hnoted)]
      rfl
    | true =>
      rw [follow_noted hnoted]
      rw [follow_noted hnoted] at hmoved
      exact ⟨.note true, _, by simp, ⟨hmoved, hstore, rfl⟩, fun _ => ⟨by simp, by simp, by simp⟩⟩
  · push Not at hgranted
    obtain ⟨heq, hnot⟩ := follow_quiet hgranted now key i' s
    refine ⟨.none, _, by simp, ⟨hmoved, hstore, heq⟩, ?_⟩
    intro hnoted
    refine ⟨?_, ?_, ?_⟩
    · intro hne
      exact absurd (entries_setInterface hi (hleases hnoted hgranted)) hne
    · intro l hl
      exact absurd hl (hnot l)
    · intro key' p hwait
      rw [follow_fst] at hwait
      cases activity with
      | replied reply => cases hwait
      | waiting u q =>
        obtain ⟨rfl, -⟩ := Activity.waiting.inj hwait
        exact hnoted

/-- An allocation changes the leases by what it is granted only. -/
lemma leases_of_activity {claim : Claim} {r : Progress × Interface} {base : Interface}
    (ho : Interface.Outcome now claim base r)
    (h : ∀ l, r.1.activity ≠ .replied (.lease (.ok l))) : r.2.leases = base.leases := by
  obtain ⟨progress, i'⟩ := r
  apply ho.leases_eq
  intro l hl
  exact h l (by rw [hl]; rfl)

lemma submitOn_turn (h : Tracked s w) (now : ℕ) {key : SiteKey} {command : InterfaceCommand}
    (hcommand : key.noted → ∃ r, command = .allocate r) :
    ∃ saving s₁, saving ≠ .save ∧
      Turn now saving s s₁ (Site.submitOn now key command s).2 w
        ((Site.submitOn now key command s).1.suspend w) ∧
      (key.noted → Accounted saving s s₁ (Site.submitOn now key command s).1) := by
  unfold Site.submitOn
  cases hi : s.interfaces.get? key.interface with
  | none => exact ⟨.none, s, by simp, .idle now s w, fun _ => .idle s (by simp)⟩
  | some i =>
    refine follow_turn hi (.submit now i _ trivial) (fun _ _ => rfl) ?_
    intro hnoted hnot
    obtain ⟨r, rfl⟩ := hcommand hnoted
    have ho := Interface.begin_outcome (h.sound hi).interface now (r.at now)
    exact leases_of_activity ho hnot

/-- What comes of the answer to a probe. -/
def resume (now : ℕ) (key : SiteKey) (p : Pending) (busy : Bool) (s : Service) :
    Activity SiteKey Reply × Service :=
  match s.interfaces.get? key.interface with
  | none => (.replied .unattended, s)
  | some i => Site.follow now key (i.resume now p busy).2 s (i.resume now p busy).1.activity

/-- The service when an allocation has ended without a lease. -/
def withdraw (key : SiteKey) (p : Pending) (s : Service) : Service :=
  match s.interfaces.get? key.interface with
  | none => s
  | some i => s.setInterface key.interface (i.abandon p)

section Waiting

variable {key : SiteKey} {p : Pending} {before after : List (SiteKey × Pending)}

/-- An allocation that waits on no interface of the service is of no concern to it. -/
lemma Moved.absent_key (hi : s.interfaces.get? key.interface = none) :
    Moved s s (before ++ (key, p) :: after) (before ++ after) := by
  refine ⟨rfl, id, ?_⟩
  intro name i hi'
  have hne : name ≠ key.interface := by
    intro heq
    rw [heq, hi] at hi'
    exact Option.some_ne_none _ hi'.symm
  rw [waitingOn_middle_of_ne hne.symm p before after]
  exact ⟨i, hi', .refl⟩

lemma resume_turn (h : Tracked s (before ++ (key, p) :: after)) (now : ℕ) (busy : Bool) :
    ∃ saving s₁, saving ≠ .save ∧
      Turn now saving s s₁ (s.resume now key p busy).2 (before ++ (key, p) :: after)
        ((s.resume now key p busy).1.suspend (before ++ after)) ∧
      (key.noted → Accounted saving s s₁ (s.resume now key p busy).1) := by
  unfold Service.resume
  cases hi : s.interfaces.get? key.interface with
  | none =>
    exact ⟨.none, s, by simp, ⟨.absent_key hi, ⟨rfl, rfl, rfl, rfl⟩, rfl⟩,
      fun _ => .idle s (by simp)⟩
  | some i =>
    have hsound := h.sound hi
    rw [waitingOn_middle_of_eq rfl] at hsound
    refine follow_turn hi ?_ ?_ ?_
    · rw [waitingOn_middle_of_eq rfl, waitingOn_append]
      exact .resume now busy i p _ _
    · intro name hne
      exact (waitingOn_middle_of_ne hne.symm p before after).symm
    · intro _ hnot
      -- giving the reservation up has left the leases alone
      rw [leases_of_activity (hsound.resume_outcome now busy) hnot]
      exact Interface.leases_of_unreserved (i.unreserved_abandon p)

lemma withdraw_turn (s : Service) (now : ℕ) (key : SiteKey) (p : Pending)
    (before after : List (SiteKey × Pending)) :
    ∃ s₁, Turn now .none s s₁ (s.withdraw key p) (before ++ (key, p) :: after) (before ++ after) ∧
      s₁.entries = s.entries := by
  unfold Service.withdraw
  cases hi : s.interfaces.get? key.interface with
  | none => exact ⟨s, ⟨.absent_key hi, ⟨rfl, rfl, rfl, rfl⟩, rfl⟩, rfl⟩
  | some i =>
    have hleases : (i.abandon p).leases = i.leases :=
      Interface.leases_of_unreserved (i.unreserved_abandon p)
    refine ⟨s.setInterface key.interface (i.abandon p), ⟨?_, ⟨rfl, rfl, rfl, rfl⟩, rfl⟩,
      entries_setInterface hi hleases⟩
    apply Moved.setInterface hi
    · rw [waitingOn_middle_of_eq rfl, waitingOn_append]
      exact .single (.abandon i p _ _)
    · intro name hne
      exact (waitingOn_middle_of_ne hne.symm p before after).symm

end Waiting

/-! ## Commands to all interfaces -/

/-- The entries stay when every interface keeps its leases. -/
lemma entries_mapValues {g : Interface → Interface}
    (h : ∀ {name i}, s.interfaces.get? name = some i → (g i).leases = i.leases) :
    { s with interfaces := s.interfaces.mapValues g }.entries = s.entries := by
  apply entries_eq_of_leases
  intro name
  rw [SortedMap.get?_mapValues]
  cases hi : s.interfaces.get? name with
  | none => rfl
  | some i => rw [Option.map_some, Option.map_some, Option.map_some, h hi]

lemma mem_values_of_get? (hi : s.interfaces.get? name = some i) : i ∈ s.interfaces.values :=
  SortedMap.mem_values_iff.2 ⟨name, hi⟩

lemma leases_reset (i : Interface) : i.reset.2.leases = [] := by
  obtain ⟨name, v4, v6, probeTimeout⟩ := i
  cases v4 <;> cases v6 <;> rfl

lemma reset_turn (s : Service) (now : ℕ) (w : List (SiteKey × Pending)) :
    ∃ saving s₁, saving ≠ .save ∧ Turn now saving s s₁ (s.reset now).2 w w ∧
      (s₁.entries ≠ s.entries → saving = .note true) := by
  have hreset : ∀ r, InterfaceCommand.reset ≠ .allocate r := by simp
  have hmoved : Moved s
      { s with interfaces := s.interfaces.mapValues fun (i : Interface) => i.reset.2 } w w :=
    Moved.mapValues now hreset s w
  have hstore : SameStore s
      { s with interfaces := s.interfaces.mapValues fun (i : Interface) => i.reset.2 } :=
    ⟨rfl, rfl, rfl, rfl⟩
  by_cases hcount : s.leases.length = 0
  · refine ⟨.none, _, by simp, ⟨hmoved, hstore, ?_⟩, ?_⟩
    · simp only [reset, hcount, if_true, finish]
    · intro hne
      refine absurd (entries_mapValues ?_) hne
      -- there was nothing to be removed
      intro name i hi
      have hleases : i.leases = [] :=
        List.flatMap_eq_nil_iff.1 (List.length_eq_zero_iff.1 hcount) i (mem_values_of_get? hi)
      rw [leases_reset, hleases]
  · refine ⟨.note true, _, by simp, ⟨hmoved, hstore, ?_⟩, fun _ => rfl⟩
    simp only [reset, hcount, if_false, finish]

lemma mem_scopes_of_scope? {f : Family} {scope : Scope} (hs : i.scope? f = some scope) :
    scope ∈ i.scopes := by
  rw [Interface.scopes, List.mem_append, Option.mem_toList, Option.mem_toList]
  cases f with
  | v4 => exact .inl hs
  | v6 => exact .inr hs

/-- An interface none of whose leases has expired stays as it is in a pass. -/
lemma reapExpired_of_nil {time : Timestamp} (h : (i.reapExpired time).1 = []) :
    (i.reapExpired time).2 = i := by
  refine Interface.ext_scope? rfl rfl ?_
  intro f
  rw [Interface.reapExpired_eq_mapScopes, Interface.scope?_mapScopes]
  cases hs : i.scope? f with
  | none => rfl
  | some scope =>
    have hnone : scope.table.leases.filter (·.isExpiredAt time) = [] :=
      List.flatMap_eq_nil_iff.1 h scope (mem_scopes_of_scope? hs)
    rw [Option.map_some, Scope.change, LeaseTable.change, LeaseTable.reapExpired, hnone,
      List.foldl_nil]

/-- The service after the leases that have expired are gone, before it takes note of that. -/
def reaped (time : Timestamp) (next : Option ℕ) (s : Service) : Service :=
  { s with
    interfaces := s.interfaces.mapValues fun (i : Interface) => (i.reapExpired time).2
    nextPass := next }

/-- How many leases a pass removes. -/
def reapCount (time : Timestamp) (s : Service) : ℕ :=
  (Reaper.pass time s.interfaces.values).1

/-- A pass, whatever becomes of the background reaper. -/
lemma reaped_turn (s : Service) (now : ℕ) (time : Timestamp) (next : Option ℕ)
    (w : List (SiteKey × Pending)) :
    Turn now (.note (0 < s.reapCount time)) s (s.reaped time next)
        { (s.reapPass now time).2 with nextPass := next } w w ∧
      ((s.reaped time next).entries ≠ s.entries → 0 < s.reapCount time) := by
  have hreap : ∀ r, InterfaceCommand.reap (some time) ≠ .allocate r := by simp
  have hmoved : Moved s (s.reaped time s.nextPass) w w := Moved.mapValues now hreap s w
  refine ⟨⟨hmoved.trans ⟨rfl, id, fun hi => ⟨_, hi, .refl⟩⟩, ⟨rfl, rfl, rfl, rfl⟩,
    nextPass_noteChange now next _ (s.reaped time s.nextPass)⟩, ?_⟩
  intro hne
  by_contra hcount
  refine hne (entries_mapValues ?_)
  intro name i hi
  have hnone : (i.reapExpired time).1 = [] :=
    List.flatMap_eq_nil_iff.1 (List.length_eq_zero_iff.1 (Nat.eq_zero_of_not_pos hcount)) i
      (mem_values_of_get? hi)
  rw [reapExpired_of_nil hnone]

/-! ## All commands -/

/-- Whether a command makes a pass. -/
def makesPass (s : Service) : SiteCommand → Prop
  | .reapPass _ => True
  | .startReaper => s.nextPass = none
  | _ => False

/-- Whether a command saves, be it due or not. -/
def savesAtOnce : SiteCommand → Prop
  | .save => True
  | .shutdown => True
  | _ => False

lemma replySaved_eq (r : Except LeaseError Unit × Service) :
    ∃ reply, Site.replySaved r = (.replied reply, r.2) ∧ ∀ result, reply ≠ .lease result := by
  obtain ⟨result, s⟩ := r
  cases result with
  | ok u => exact ⟨.nothing, rfl, by simp⟩
  | error e => exact ⟨.refused e, rfl, by simp⟩

/-- What it means that `r` is what comes of a command that is carried out in one turn. What goes
through the service, and not past it to an interface, leaves no change unnoted. -/
def TakesTurn (s : Service) (w : List (SiteKey × Pending)) (now : ℕ) (c : SiteCommand)
    (r : Activity SiteKey Reply × Service) : Prop :=
  ∃ saving s₁, Turn now saving s s₁ r.2 w (r.1.suspend w) ∧ (saving = .save ↔ savesAtOnce c) ∧
    (s.makesPass c → ∃ changed, saving = .note changed) ∧
    ((∀ name command, c ≠ .on name command) → Accounted saving s s₁ r.1)

section TakesTurn

variable {c : SiteCommand}

lemma TakesTurn.of_look (hpass : ¬ s.makesPass c) (hsave : ¬ savesAtOnce c) {reply : Reply}
    (hreply : ∀ l, reply ≠ .lease (.ok l)) (w : List (SiteKey × Pending)) (now : ℕ) :
    TakesTurn s w now c (.replied reply, s) :=
  ⟨.none, s, .idle now s w, iff_of_false (by simp) hsave, fun h => absurd h hpass,
    fun _ => .idle s hreply⟩

lemma TakesTurn.of_changesLease (h : Tracked s w) (hc : c.ChangesLease) (hpass : ¬ s.makesPass c)
    (hsave : ¬ savesAtOnce c) : TakesTurn s w now c (Site.submitService now c s) := by
  obtain ⟨ip, change, hchange, heq⟩ := exists_change hc now
  rw [heq]
  obtain ⟨saving, s₁, hnot, hturn, haccounted⟩ := changeLease_turn h ip hchange
  exact ⟨saving, s₁, hturn, iff_of_false hnot hsave, fun h => absurd h hpass, fun _ => haccounted⟩

lemma TakesTurn.of_pass (hsave : ¬ savesAtOnce c) (s : Service) (w : List (SiteKey × Pending))
    (now : ℕ) (time : Timestamp) (next : Option ℕ) {reply : Reply}
    (hreply : ∀ l, reply ≠ .lease (.ok l)) :
    TakesTurn s w now c (.replied reply, { (s.reapPass now time).2 with nextPass := next }) := by
  obtain ⟨hturn, hentries⟩ := reaped_turn s now time next w
  refine ⟨_, _, hturn, iff_of_false (by simp) hsave, fun _ => ⟨_, rfl⟩, fun _ => ⟨?_, ?_, by simp⟩⟩
  · intro hne
    rw [decide_eq_true (hentries hne)]
  · intro l hl
    exact absurd (Activity.replied.inj hl) (hreply l)

lemma TakesTurn.of_save (hpass : ¬ s.makesPass c) (hsave : savesAtOnce c)
    (w : List (SiteKey × Pending)) (now : ℕ) (next : Option ℕ) :
    TakesTurn s w now c (Site.replySaved ({ s with nextPass := next }.save now)) := by
  obtain ⟨reply, hreplied, hreply⟩ := replySaved_eq ({ s with nextPass := next }.save now)
  have hmoved : Moved s { s with nextPass := next } w w := ⟨rfl, id, fun hi => ⟨_, hi, .refl⟩⟩
  rw [hreplied]
  refine ⟨.save, { s with nextPass := next }, ⟨hmoved, ⟨rfl, rfl, rfl, rfl⟩, rfl⟩,
    iff_of_true rfl hsave, fun h => absurd h hpass, fun _ => ⟨fun hne => absurd rfl hne, ?_, by simp⟩⟩
  intro l hl
  exact absurd (Activity.replied.inj hl) (hreply (.ok l))

end TakesTurn

/-- What a service does when it carries out a command, up to the first probe of an allocation. -/
theorem submitService_turn (h : Tracked s w) (now : ℕ) (c : SiteCommand) :
    TakesTurn s w now c (Site.submitService now c s) := by
  cases c with
  | on name command =>
    let key : SiteKey := ⟨name, false⟩
    have hunnoted : key.noted → ∃ r, command = .allocate r := by simp [key]
    obtain ⟨saving, s₁, hsave, hturn, -⟩ := submitOn_turn h now hunnoted
    exact ⟨saving, s₁, hturn, iff_of_false hsave id, False.elim, by simp⟩
  | allocate name r =>
    let key : SiteKey := ⟨name, true⟩
    have hallocate : key.noted → ∃ r', InterfaceCommand.allocate r = .allocate r' :=
      fun _ => ⟨r, rfl⟩
    obtain ⟨saving, s₁, hsave, hturn, haccounted⟩ := submitOn_turn h now hallocate
    exact ⟨saving, s₁, hturn, iff_of_false hsave id, False.elim, fun _ => haccounted rfl⟩
  | release client ip => exact .of_changesLease h trivial id id
  | addLease l => exact .of_changesLease h trivial id id
  | editLease old new => exact .of_changesLease h trivial id id
  | removeLease l => exact .of_changesLease h trivial id id
  | reset =>
    obtain ⟨saving, s₁, hsave, hturn, hentries⟩ := reset_turn s now w
    exact ⟨saving, s₁, hturn, iff_of_false hsave id, False.elim,
      fun _ => ⟨hentries, by simp [Site.submitService], by simp [Site.submitService]⟩⟩
  | save => exact .of_save (c := .save) id trivial w now s.nextPass
  | shutdown => exact .of_save (c := .shutdown) id trivial w now none
  | reapPass time =>
    let pass := s.reapPass now (time.getD (.ofMillis now))
    have hreply : ∀ l, Reply.number pass.1 ≠ .lease (.ok l) := by simp
    exact .of_pass id s w now (time.getD (.ofMillis now)) pass.2.nextPass
      hreply
  | startReaper =>
    simp only [Site.submitService, startReaper]
    split
    · next hnext => exact .of_look (by simp [makesPass, hnext]) id (by simp) w now
    · exact .of_pass id s w now _ _ (by simp)
  | _ => exact .of_look id id (by simp) w now

end Service

end DhcpLeasing
