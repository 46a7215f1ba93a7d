import DhcpLeasing.Proofs.LeaseFile
import DhcpLeasing.Proofs.Service.Runs

/-!
# Expiries are times of the calendar

A lease that is granted or renewed expires at the end of the calendar at the latest, and the others
are brought by operators or come from the lease file. So when operators bring no expiry beyond the
calendar, no lease has one: `Runs.timely`. Then the leases can be read again from the text in which
they are saved: `Timely.parse?_render_entries`.
-/

namespace DhcpLeasing

variable {l m : Lease}

lemma Lease.Timely.renew (h : l.Timely) {now : Timestamp} (hpast : 0 ≤ now.seconds) (d : Duration) :
    (l.renew now d).Timely := by
  unfold Lease.renew
  split
  · exact h
  · intro t ht
    obtain rfl := Option.some.inj ht
    exact Timestamp.valid_expiryAfter (Timestamp.firstSecond_nonpos.trans hpast) d

/-! ## Scopes -/

/-- A change that brings no expiry beyond the calendar. -/
def TableChange.Timely : TableChange → Prop
  | .commit l => l.Timely
  | .insert l => l.Timely
  | .renew now .. => 0 ≤ now.seconds
  | .edit _ new => new.Timely
  | _ => True

namespace Scope

variable {s : Scope} {c : TableChange} {ip : IpAddr}

/-- A scope all of whose expiries are times of the calendar. -/
def Timely (s : Scope) : Prop :=
  ∀ ip l, s.table.lookup ip = some l → l.Timely

lemma Timely.change (ht : s.Timely) (h : s.Sound) (hc : c.Timely) : (s.change c).Timely := by
  intro ip l hl
  rcases h.table.lookup_change_of_some hl with hl | hbrings
  · exact ht ip l hl
  · cases c with
    | renew now client ip d =>
      obtain ⟨m, hm, -, rfl⟩ := hbrings
      exact (ht ip m hm).renew hc d
    | commit m => exact hbrings ▸ hc
    | insert m => exact hbrings ▸ hc
    | edit old m => exact hbrings ▸ hc
    | _ => exact False.elim hbrings

end Scope

/-! ## Interfaces -/

/-- The lease that a command enters, if it is carried out. -/
def InterfaceCommand.entered : InterfaceCommand → Option Lease
  | .addLease l => some l
  | .editLease _ new => some new
  | _ => none

namespace Interface

variable {i i' : Interface} {s : Scope} {f : Family} {now : ℕ}

/-- An interface all of whose expiries are times of the calendar. -/
def Timely (i : Interface) : Prop :=
  ∀ l ∈ i.leases, l.Timely

lemma timely_iff : i.Timely ↔ ∀ {f s}, i.scope? f = some s → s.Timely := by
  constructor
  · intro ht f s hs ip l hl
    exact ht l (mem_leases_iff.2 ⟨f, s, hs, SortedMap.mem_values_iff.2 ⟨ip, hl⟩⟩)
  · intro ht l hl
    obtain ⟨f, s, hs, hl⟩ := mem_leases_iff.1 hl
    obtain ⟨ip, hl⟩ := SortedMap.mem_values_iff.1 hl
    exact ht hs ip l hl

lemma timely_ofConfig (name : String) (c : InterfaceConfig) (probeTimeout : ℕ) :
    (ofConfig name c probeTimeout).Timely := by
  rw [timely_iff]
  intro f s hs ip l hl
  rw [← emptied_ofConfig, emptied, scope?_mapScopes] at hs
  obtain ⟨s', -, rfl⟩ := Option.map_eq_some_iff.1 hs
  simp [Scope.ofPool, LeaseTable.lookup, LeaseTable.empty] at hl

lemma Timely.setScope (h : i.Timely) (hs : s.Timely) (f : Family) : (i.setScope s f).Timely := by
  rw [timely_iff] at h ⊢
  intro f' s' hs'
  rw [scope?_setScope] at hs'
  split at hs'
  · obtain rfl := Option.some.inj hs'
    exact hs
  · exact h hs'

lemma Timely.of_unreserved (h : i.Timely) (heq : i'.unreserved = i.unreserved) : i'.Timely := by
  intro l hl
  rw [leases_of_unreserved heq] at hl
  exact h l hl

/-- What an operator enters has the expiry that it came with, or none. -/
lemma timely_normalizeLease (hl : i.normalizeLease l = .ok m) (h : l.Timely) : m.Timely := by
  simp only [normalizeLease, bind_eq_ok_iff, adminScope_eq_ok_iff, mapError_eq_ok_iff] at hl
  obtain ⟨s, -, ⟨⟩, -, hostname, -, hl⟩ := hl
  split at hl
  · simp only [bind_eq_ok_iff, mapError_eq_ok_iff, pure_eq_ok_iff] at hl
    obtain ⟨⟨⟩, -, rfl⟩ := hl
    intro t ht
    cases ht
  · simp only [bind_eq_ok_iff, mapError_eq_ok_iff, pure_eq_ok_iff] at hl
    obtain ⟨⟨⟩, -, rfl⟩ := hl
    exact h

lemma Makes.timely {command : InterfaceCommand} {c : TableChange} (hmakes : i.Makes now command c)
    (hentered : ∀ l, command.entered = some l → l.Timely) : c.Timely := by
  cases command with
  | addLease l =>
    obtain ⟨m, hm, rfl⟩ := hmakes
    exact timely_normalizeLease hm (hentered l rfl)
  | editLease old new =>
    obtain ⟨m, hm, rfl⟩ := hmakes
    exact timely_normalizeLease hm (hentered new rfl)
  | release client ip =>
    obtain rfl : c = _ := hmakes
    trivial
  | removeLease l =>
    obtain rfl : c = _ := hmakes
    trivial
  | reset =>
    obtain rfl : c = _ := hmakes
    trivial
  | reap time =>
    obtain rfl : c = _ := hmakes
    trivial
  | _ => exact False.elim hmakes

/-- What an allocation grants or renews expires within the calendar. -/
lemma Outcome.timely {claim : Claim} {r : Progress × Interface} (ho : Outcome now claim i r)
    (h : i.Sound) (ht : i.Timely) : r.2.Timely := by
  cases ho with
  | refused e => exact ht
  | @step s s' progress scope fits outcome =>
    have hsound := h.scope scope
    have hs : s.Timely := timely_iff.1 ht scope
    apply ht.setScope
    cases outcome with
    | kept held static => exact hs
    | renewed held dynamic =>
      have hpast := Timestamp.seconds_ofMillis_nonneg now
      exact hs.change hsound hpast
    | leased offered unreserved onTime admitted =>
      apply hs.change hsound
      intro t ht
      obtain rfl := Option.some.inj ht
      have hpast := Timestamp.seconds_ofMillis_nonneg now
      exact Timestamp.valid_expiryAfter (Timestamp.firstSecond_nonpos.trans hpast) _
    | failed e => exact hs
    | probing claim_eq offered unleased unreserved => exact hs

/-- A command that enters no expiry beyond the calendar leaves none. -/
theorem Timely.submit (ht : i.Timely) (h : i.Sound) (now : ℕ) (command : InterfaceCommand)
    (hentered : ∀ l, command.entered = some l → l.Timely) : (i.submit now command).2.Timely := by
  by_cases hcommand : ∀ r, command ≠ .allocate r
  · rw [timely_iff] at ht ⊢
    intro f s' hs'
    rcases i.scope?_submit_cases now hcommand f with heq | ⟨s, c, hs, hmakes, heq⟩
    · rw [heq] at hs'
      exact ht hs'
    · rw [heq] at hs'
      obtain rfl := Option.some.inj hs'
      exact (ht hs).change (h.scope hs) (hmakes.timely hentered)
  · push Not at hcommand
    obtain ⟨r, rfl⟩ := hcommand
    exact (begin_outcome h now (r.at now)).timely h ht

end Interface

/-! ## Services -/

/-- The lease that a command enters, if it is carried out. -/
def SiteCommand.entered : SiteCommand → Option Lease
  | .on _ command => command.entered
  | .addLease l => some l
  | .editLease _ new => some new
  | _ => none

namespace Service

variable {s s' : Service} {name : String} {i : Interface} {now : ℕ} {w : List (SiteKey × Pending)}

/-- A service all of whose expiries are times of the calendar. -/
def Timely (s : Service) : Prop :=
  ∀ name i, s.interfaces.get? name = some i → i.Timely

namespace Timely

lemma of_interfaces (ht : s.Timely) (h : s'.interfaces = s.interfaces) : s'.Timely := by
  intro name i hi
  rw [h] at hi
  exact ht name i hi

lemma setInterface (ht : s.Timely) (hi : i.Timely) (name : String) :
    (s.setInterface name i).Timely := by
  intro other j hj
  rw [Service.setInterface, SortedMap.get?_insert] at hj
  split at hj
  · obtain rfl := Option.some.inj hj
    exact hi
  · exact ht other j hj

/-- A command to all interfaces. -/
lemma mapValues (ht : s.Timely) (h : s.Tracked w) (now : ℕ) (command : InterfaceCommand)
    (hentered : ∀ l, command.entered = some l → l.Timely) :
    Timely { s with interfaces :=
      s.interfaces.mapValues fun (i : Interface) => (i.submit now command).2 } := by
  intro name i' hi'
  rw [SortedMap.get?_mapValues] at hi'
  obtain ⟨i, hi, rfl⟩ := Option.map_eq_some_iff.1 hi'
  exact (ht name i hi).submit (h.sound hi).interface now command hentered

lemma afterChange (ht : s.Timely) (now : ℕ) (result : Except LeaseError Lease) :
    (s.afterChange now result).Timely := by
  cases result with
  | ok l => exact ht.of_interfaces (interfaces_noteChange now true s)
  | error e => exact ht

lemma changeLease (ht : s.Timely) (h : s.Tracked w) (now : ℕ) (ip : IpAddr)
    {change : Interface → Except LeaseError Lease × Interface}
    (hchange : ∀ i, i.Sound → i.Timely → (change i).2.Timely) :
    (s.changeLease now ip change).2.Timely := by
  unfold Service.changeLease
  cases hserves : s.interfaceFor ip with
  | error e => exact ht
  | ok found =>
    obtain ⟨name, i⟩ := found
    have hi := interfaceFor_eq_ok hserves
    exact (ht.setInterface (hchange i (h.sound hi).interface (ht name i hi)) name).afterChange now _

lemma follow (ht : s.Timely) (hi : i.Timely) (now : ℕ) (key : SiteKey)
    (activity : Activity Unit Reply) : (Site.follow now key i s activity).2.Timely := by
  have hset := ht.setInterface hi key.interface
  unfold Site.follow
  split
  · exact hset
  · simp only
    split
    · exact hset.afterChange now _
    · exact hset

lemma reapPass (ht : s.Timely) (h : s.Tracked w) (now : ℕ) (time : Timestamp) :
    (s.reapPass now time).2.Timely := by
  have hreaped := ht.mapValues h now (.reap (some time)) nofun
  exact hreaped.of_interfaces (interfaces_noteChange now _ _)

lemma submitOn (ht : s.Timely) (h : s.Tracked w) (now : ℕ) (key : SiteKey)
    (command : InterfaceCommand) (hentered : ∀ l, command.entered = some l → l.Timely) :
    (Site.submitOn now key command s).2.Timely := by
  unfold Site.submitOn
  cases hi : s.interfaces.get? key.interface with
  | none => exact ht
  | some i =>
    have hsubmitted := (ht _ i hi).submit (h.sound hi).interface now command hentered
    exact ht.follow hsubmitted now key _

lemma save (ht : s.Timely) (now : ℕ) : (Site.replySaved (s.save now)).2.Timely := by
  obtain ⟨reply, hreplied, -⟩ := replySaved_eq (s.save now)
  rw [hreplied]
  exact ht.of_interfaces (interfaces_save now s)

/-- A command that enters no expiry beyond the calendar leaves none. -/
theorem submitService (ht : s.Timely) (h : s.Tracked w) (now : ℕ) {c : SiteCommand}
    (hentered : ∀ l, c.entered = some l → l.Timely) : (Site.submitService now c s).2.Timely := by
  cases c with
  | on name command => exact ht.submitOn h now ⟨name, false⟩ command hentered
  | allocate name r =>
    exact ht.submitOn h now ⟨name, true⟩ (.allocate r) nofun
  | release client ip =>
    apply ht.changeLease h
    intro i hi hti
    exact hti.submit hi now (.release client ip) nofun
  | addLease l =>
    apply ht.changeLease h
    intro i hi hti
    exact hti.submit hi now (.addLease l) hentered
  | editLease old new =>
    apply ht.changeLease h
    intro i hi hti
    split
    · exact hti.submit hi now (.editLease old new) hentered
    · exact hti
  | removeLease l =>
    apply ht.changeLease h
    intro i hi hti
    exact hti.submit hi now (.removeLease l) nofun
  | reset =>
    have hreset := ht.mapValues h now .reset nofun
    simp only [Site.submitService, Service.reset]
    split
    · exact hreset
    · exact hreset.of_interfaces (interfaces_noteChange now true _)
  | save => exact ht.save now
  | shutdown => exact Timely.save (s := { s with nextPass := none }) ht now
  | reapPass time => exact ht.reapPass h now _
  | startReaper =>
    simp only [Site.submitService, startReaper]
    split
    · exact ht
    · exact (ht.reapPass h now _).of_interfaces rfl
  | _ => exact ht

lemma passIfDue (ht : s.Timely) (h : s.Tracked w) (now : ℕ) : (s.passIfDue now).Timely := by
  unfold Service.passIfDue
  split
  · exact ht
  · split
    · exact ht
    · exact (ht.reapPass h now _).of_interfaces rfl

section Waiting

variable {key : SiteKey} {p : Pending} {before after : List (SiteKey × Pending)}

/-- The answer to a probe may have an allocation granted what it waits for. -/
lemma resume (ht : s.Timely) (h : s.Tracked (before ++ (key, p) :: after)) (now : ℕ) (busy : Bool) :
    (s.resume now key p busy).2.Timely := by
  unfold Service.resume
  cases hi : s.interfaces.get? key.interface with
  | none => exact ht
  | some i =>
    have hsound := h.sound hi
    rw [waitingOn_middle_of_eq rfl] at hsound
    have habandoned : (i.abandon p).Timely := (ht _ i hi).of_unreserved (i.unreserved_abandon p)
    have ho := hsound.resume_outcome now busy
    exact ht.follow (ho.timely (hsound.interface.abandon p) habandoned) now key _

lemma withdraw (ht : s.Timely) (key : SiteKey) (p : Pending) : (s.withdraw key p).Timely := by
  unfold Service.withdraw
  cases hi : s.interfaces.get? key.interface with
  | none => exact ht
  | some i => exact ht.setInterface ((ht _ i hi).of_unreserved (i.unreserved_abandon p)) _

end Waiting

/-- An entry of the lease file is restored by a command that enters its lease, if at all. -/
lemma restoreEntry (ht : s.Timely) (h : s.Tracked []) (time : Timestamp) (count : ℕ)
    {e : StoredLease} (he : e.lease.Timely) :
    Timely { s with interfaces := (restoreEntry time (count, s.interfaces) e).2 } := by
  unfold Service.restoreEntry
  cases hi : s.interfaces.get? e.interface with
  | none => exact ht
  | some i =>
    have hentered : ∀ l, (InterfaceCommand.addLease e.lease).entered = some l → l.Timely := by
      intro l hl
      obtain rfl := Option.some.inj hl
      exact he
    have hadded := (ht _ i hi).submit (h.sound hi).interface 0 (.addLease e.lease) hentered
    simp only
    split
    · exact ht
    · split
      · next hresult =>
        have heq : (i.submit 0 (.addLease e.lease)).2 = (i.addLease e.lease).2 := rfl
        rw [heq, hresult] at hadded
        exact ht.setInterface hadded e.interface
      · exact ht

lemma restoreEntries (ht : s.Timely) (h : s.Tracked []) (time : Timestamp) (count : ℕ)
    {es : List StoredLease} (hes : ∀ e ∈ es, e.lease.Timely) :
    Timely { s with
      interfaces := (es.foldl (Service.restoreEntry time) (count, s.interfaces)).2 } := by
  induction es generalizing s count with
  | nil => exact ht
  | cons e rest ih =>
    have hmoved := restoreEntry_moved s time count e
    exact ih (ht.restoreEntry h time count (hes e (by simp))) (h.moved hmoved) _
      fun e' he' => hes e' (by simp [he'])

/-- A service is started with expiries of the calendar, since it reads them from a text. -/
lemma start {c : Config} {disk : Disk} {count : ℕ} (h : Service.start now c disk = .ok (count, s)) :
    s.Timely := by
  have hempty : Timely ⟨c, Service.interfacesOf c, disk, false, none, none⟩ := by
    intro name i hi
    obtain ⟨ic, -, rfl⟩ := eq_ofConfig_of_interfacesOf hi
    exact Interface.timely_ofConfig name ic _
  have hrestore := (start_eq_ok h).2
  unfold restore at hrestore
  split at hrestore
  · obtain ⟨-, rfl⟩ := Prod.mk.inj (Except.ok.inj hrestore)
    exact hempty
  · split at hrestore
    · cases hrestore
    · split at hrestore
      · cases hrestore
      · next entries hparse =>
        obtain ⟨-, rfl⟩ := Prod.mk.inj (Except.ok.inj hrestore)
        exact hempty.restoreEntries (Tracked.interfacesOf c disk) _ 0
          (LeaseFile.timely_of_parse? hparse)

/-- Every lease can be written to a file and read from it. -/
lemma parse?_render_entries (ht : s.Timely) (h : s.Tracked w) :
    LeaseFile.parse? (LeaseFile.render s.entries) = some s.entries := by
  apply LeaseFile.parse?_render
  intro e he
  obtain ⟨i, hi, hl⟩ := mem_entries_iff.1 he
  obtain ⟨scope, hs, hlookup⟩ := (h.sound hi).interface.exists_scope hl
  have hfits := ((h.sound hi).interface.scope hs).fits hlookup
  exact ⟨HwAddr.ne_nil_of_validateFor hfits.client, ht _ i hi e.lease hl⟩

end Timely

end Service

/-! ## Sites -/

namespace Site

variable {x x' : Site} {s : Service} {w w' : List (SiteKey × Pending)} {e : Event}

/-- The lease that an event enters, if it is carried out. -/
def Event.entered : Event → Option Lease
  | .submit c => c.entered
  | _ => none

/-- What it means that no operator enters an expiry beyond the calendar. -/
def Event.Timely (e : Event) : Prop :=
  ∀ l, e.entered = some l → l.Timely

lemma Step.timely (hstep : Step e (x, w) (x', w')) (hx : x.service = .ok s) (h : s.Tracked w)
    (ht : s.Timely) (hentered : e.Timely) : ∃ s', x'.service = .ok s' ∧ s'.Timely := by
  obtain ⟨clock, config, service⟩ := x
  obtain rfl : service = .ok s := hx
  cases hstep with
  | setClock time => exact ⟨s, rfl, ht⟩
  | setDisk disk => exact ⟨{ s with disk }, rfl, ht⟩
  | submit c =>
    have hcommand : ∀ l, c.entered = some l → l.Timely := hentered
    cases c with
    | advance millis => exact ⟨_, rfl, ht.passIfDue h (clock + millis)⟩
    | showFile => exact ⟨s, rfl, ht⟩
    | putFile text =>
      obtain ⟨disk, reply, heq, -⟩ := @submit_putFile s clock config text
      rw [heq]
      exact ⟨{ s with disk }, rfl, ht⟩
    | deleteFile =>
      obtain ⟨disk, reply, heq, -⟩ := @submit_deleteFile s clock config
      rw [heq]
      exact ⟨{ s with disk }, rfl, ht⟩
    | _ => exact ⟨_, rfl, ht.submitService h clock hcommand⟩
  | resume key p busy _ before after =>
    rw [resume_eq]
    exact ⟨_, rfl, ht.resume h clock busy⟩
  | expire key p _ before after =>
    rw [expire_eq]
    exact ⟨_, rfl, ht.withdraw key p⟩
  | withdraw key p _ before after =>
    rw [withdraw_eq]
    exact ⟨_, rfl, ht.withdraw key p⟩

/-- **As long as no operator enters an expiry beyond the calendar, no lease has one.** -/
theorem Runs.timely (hrun : Runs (fun _ e => e.Timely) (x, w) (x', w')) (hx : x.service = .ok s)
    (h : s.Tracked w) (ht : s.Timely) :
    ∃ s', x'.service = .ok s' ∧ s'.config = s.config ∧ s'.Tracked w' ∧ s'.Timely := by
  refine hrun.keeps (I := fun s _ => s.Timely) ?_ hx h ht
  intro e x x' s w w' hentered hx h ht hstep
  exact hstep.timely hx h ht hentered

end Site

end DhcpLeasing
