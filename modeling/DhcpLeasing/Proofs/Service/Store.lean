import DhcpLeasing.Proofs.Service.Runs
import DhcpLeasing.Proofs.Session.Likeness

/-!
# What a service makes of its disk

A service reads its disk when it starts, and from then on it only writes. Services that differ in
the disk, and in what they know of their lease file, do the same in every turn but to their disks,
`submitService_alike`. So sessions on them go on alike, `Site.world_ignores`, and whether a write
succeeds shows only in the replies of the commands about the file.
-/

namespace DhcpLeasing

namespace Service

/-- The disk of a service, and what it knows of its lease file. -/
def store (s : Service) : Disk × Bool × Option ℕ :=
  (s.disk, s.dirty, s.lastSave)

/-- Whether two services differ in the store at most. -/
structure Alike (s t : Service) : Prop where
  config : s.config = t.config
  interfaces : s.interfaces = t.interfaces
  nextPass : s.nextPass = t.nextPass

variable {s t : Service} {now : ℕ}

namespace Alike

lemma trans {s₁ : Service} (h₁ : s.Alike s₁) (h₂ : s₁.Alike t) : s.Alike t :=
  ⟨h₁.config.trans h₂.config, h₁.interfaces.trans h₂.interfaces, h₁.nextPass.trans h₂.nextPass⟩

lemma symm (h : s.Alike t) : t.Alike s :=
  ⟨h.config.symm, h.interfaces.symm, h.nextPass.symm⟩

/-- What two services make of the store does not matter. -/
lemma of_both {s' t' : Service} (h : s.Alike t) (hs : s.Alike s') (ht : t.Alike t') : s'.Alike t' :=
  (hs.symm.trans h).trans ht

lemma save (now : ℕ) (s : Service) : s.Alike (s.save now).2 := by
  refine ⟨(config_save now s).symm, (interfaces_save now s).symm, ?_⟩
  unfold Service.save
  split
  · rfl
  · split <;> rfl

lemma noteChange (now : ℕ) (changed : Bool) (s : Service) : s.Alike (s.noteChange now changed) := by
  have hnoted : s.Alike { s with dirty := s.dirty || changed } := ⟨rfl, rfl, rfl⟩
  unfold Service.noteChange
  simp only
  split
  · exact hnoted.trans (save now _)
  · exact hnoted

lemma afterChange (now : ℕ) (result : Except LeaseError Lease) (s : Service) :
    s.Alike (s.afterChange now result) := by
  cases result with
  | ok l => exact noteChange now true s
  | error e => exact ⟨rfl, rfl, rfl⟩

lemma setInterface (h : s.Alike t) (name : String) (i : Interface) :
    (s.setInterface name i).Alike (t.setInterface name i) :=
  ⟨h.config, congrArg (·.insert name i) h.interfaces, h.nextPass⟩

lemma mapValues (h : s.Alike t) (g : Interface → Interface) :
    { s with interfaces := s.interfaces.mapValues g }.Alike
      { t with interfaces := t.interfaces.mapValues g } :=
  ⟨h.config, congrArg (·.mapValues g) h.interfaces, h.nextPass⟩

lemma reset (h : s.Alike t) (now : ℕ) : (s.reset now).2.Alike (t.reset now).2 := by
  have hleases : s.leases = t.leases := congrArg (·.values.flatMap Interface.leases) h.interfaces
  have hreset := h.mapValues fun (i : Interface) => i.reset.2
  simp only [Service.reset, hleases]
  split
  · exact hreset
  · exact hreset.of_both (noteChange _ _ _) (noteChange _ _ _)

lemma reapPass (h : s.Alike t) (now : ℕ) (time : Timestamp) :
    (s.reapPass now time).2.Alike (t.reapPass now time).2 :=
  (h.mapValues fun (i : Interface) => (i.reapExpired time).2).of_both (noteChange _ _ _)
    (noteChange _ _ _)

lemma nextPass_set {s' t' : Service} (h : s'.Alike t') {next next' : Option ℕ}
    (hnext : next = next') :
    { s' with nextPass := next }.Alike { t' with nextPass := next' } :=
  ⟨h.config, h.interfaces, hnext⟩

lemma reapInterval_eq (h : s.Alike t) : s.reapInterval = t.reapInterval := by
  rw [reapInterval, reapInterval, h.interfaces]

lemma startReaper (h : s.Alike t) (now : ℕ) : (s.startReaper now).Alike (t.startReaper now) := by
  unfold Service.startReaper
  rw [← h.nextPass, ← h.reapInterval_eq]
  split
  · exact h
  · exact (h.reapPass now (.ofMillis now)).nextPass_set rfl

lemma passIfDue (h : s.Alike t) (now : ℕ) : (s.passIfDue now).Alike (t.passIfDue now) := by
  unfold Service.passIfDue
  rw [← h.nextPass, ← h.reapInterval_eq]
  split
  · exact h
  · split
    · exact h
    · exact (h.reapPass now (.ofMillis now)).nextPass_set rfl

end Alike

/-! ## Turns -/

/-- A change of a lease is carried out or refused whatever becomes of the lease file. -/
lemma changeLease_alike (h : s.Alike t) (now : ℕ) (ip : IpAddr)
    (change : Interface → Except LeaseError Lease × Interface) :
    (s.changeLease now ip change).1 = (t.changeLease now ip change).1 ∧
      (s.changeLease now ip change).2.Alike (t.changeLease now ip change).2 := by
  have hserves : s.interfaceFor ip = t.interfaceFor ip := by
    rw [interfaceFor, interfaceFor, h.interfaces]
  unfold changeLease
  rw [← hserves]
  cases s.interfaceFor ip with
  | error e => exact ⟨rfl, h⟩
  | ok found =>
    obtain ⟨name, i⟩ := found
    exact ⟨rfl, (h.setInterface name (change i).2).of_both (.afterChange now _ _)
      (.afterChange now _ _)⟩

lemma follow_alike (h : s.Alike t) (now : ℕ) (key : SiteKey) (i : Interface)
    (activity : Activity Unit Reply) :
    (Site.follow now key i s activity).1 = (Site.follow now key i t activity).1 ∧
      (Site.follow now key i s activity).2.Alike (Site.follow now key i t activity).2 := by
  have hset := h.setInterface key.interface i
  cases activity with
  | waiting u p => exact ⟨rfl, hset⟩
  | replied reply =>
    by_cases hnoted : key.noted = true ∧ ∃ result, reply = .lease result
    · obtain ⟨hkey, result, rfl⟩ := hnoted
      rw [follow_noted hkey, follow_noted hkey]
      exact ⟨rfl, hset.of_both (.afterChange now result _) (.afterChange now result _)⟩
    · have hquiet : key.noted = false ∨ ∀ result, reply ≠ .lease result := by
        by_contra hnot
        push Not at hnot
        simp_all
      rw [follow_unnoted hquiet, follow_unnoted hquiet]
      exact ⟨rfl, hset⟩

lemma submitOn_alike (h : s.Alike t) (now : ℕ) (key : SiteKey) (command : InterfaceCommand) :
    (Site.submitOn now key command s).1 = (Site.submitOn now key command t).1 ∧
      (Site.submitOn now key command s).2.Alike (Site.submitOn now key command t).2 := by
  unfold Site.submitOn
  rw [← h.interfaces]
  cases s.interfaces.get? key.interface with
  | none => exact ⟨rfl, h⟩
  | some i => exact follow_alike h now key _ _

lemma resume_alike (h : s.Alike t) (now : ℕ) (key : SiteKey) (p : Pending) (busy : Bool) :
    (s.resume now key p busy).1 = (t.resume now key p busy).1 ∧
      (s.resume now key p busy).2.Alike (t.resume now key p busy).2 := by
  unfold Service.resume
  rw [← h.interfaces]
  cases s.interfaces.get? key.interface with
  | none => exact ⟨rfl, h⟩
  | some i => exact follow_alike h now key _ _

lemma withdraw_alike (h : s.Alike t) (key : SiteKey) (p : Pending) :
    (s.withdraw key p).Alike (t.withdraw key p) := by
  unfold Service.withdraw
  rw [← h.interfaces]
  cases s.interfaces.get? key.interface with
  | none => exact h
  | some i => exact h.setInterface key.interface _

lemma replySaved_alike (h : s.Alike t) (now : ℕ) :
    (Site.replySaved (s.save now)).1.Alike (Site.replySaved (t.save now)).1 ∧
      (Site.replySaved (s.save now)).2.Alike (Site.replySaved (t.save now)).2 := by
  obtain ⟨reply, hs, -⟩ := replySaved_eq (s.save now)
  obtain ⟨reply', ht, -⟩ := replySaved_eq (t.save now)
  rw [hs, ht]
  exact ⟨.replied reply reply', h.of_both (.save now s) (.save now t)⟩

/-- The steps of a command to a service depend on the store in their replies at most. -/
theorem submitService_alike (h : s.Alike t) (now : ℕ) (c : SiteCommand) :
    (Site.submitService now c s).1.Alike (Site.submitService now c t).1 ∧
      (Site.submitService now c s).2.Alike (Site.submitService now c t).2 := by
  by_cases hc : c.ChangesLease
  · obtain ⟨ip, change, -, heq⟩ := exists_change hc now
    rw [heq, heq]
    exact ⟨.replied _ _, (changeLease_alike h now ip change).2⟩
  · cases c with
    | on name command =>
      obtain ⟨hactivity, hservice⟩ := submitOn_alike h now ⟨name, false⟩ command
      exact ⟨.of_eq hactivity, hservice⟩
    | allocate name r =>
      obtain ⟨hactivity, hservice⟩ := submitOn_alike h now ⟨name, true⟩ (.allocate r)
      exact ⟨.of_eq hactivity, hservice⟩
    | reset => exact ⟨.replied _ _, h.reset now⟩
    | save => exact replySaved_alike h now
    | shutdown => exact replySaved_alike (h.nextPass_set rfl) now
    | reapPass time => exact ⟨.replied _ _, h.reapPass now _⟩
    | startReaper => exact ⟨.replied _ _, h.startReaper now⟩
    | release client ip => exact absurd trivial hc
    | addLease l => exact absurd trivial hc
    | editLease old new => exact absurd trivial hc
    | removeLease l => exact absurd trivial hc
    | _ => exact ⟨.replied _ _, h⟩

end Service

namespace Site

open Service

variable {x y : Site} {c : SiteCommand}

/-- Whether two sites differ in the disk and the stores of their services at most. -/
inductive Alike : Site → Site → Prop
  | up (clock : ℕ) (config : Config) {s t : Service} (h : s.Alike t) :
      Alike ⟨clock, config, .ok s⟩ ⟨clock, config, .ok t⟩
  | down (clock : ℕ) (config : Config) (disk disk' : Disk) :
      Alike ⟨clock, config, .error disk⟩ ⟨clock, config, .error disk'⟩

lemma Alike.setDisk (h : x.Alike y) (disk disk' : Disk) :
    (x.setDisk disk).Alike (y.setDisk disk') := by
  cases h with
  | up clock config h => exact .up clock config ⟨h.config, h.interfaces, h.nextPass⟩
  | down clock config _ _ => exact .down clock config disk disk'

lemma setDisk_disk (x : Site) : x.setDisk x.disk = x := by
  obtain ⟨clock, config, service⟩ := x
  cases service <;> rfl

/-- What other hands do to the lease file changes nothing but the disk. -/
lemma submit_file (hc : (∃ text, c = .putFile text) ∨ c = .deleteFile) (x : Site) :
    ∃ reply disk, submit c x = (.replied reply, x.setDisk disk) := by
  rcases hc with ⟨text, rfl⟩ | rfl
  · simp only [submit]
    split
    · exact ⟨_, _, rfl⟩
    · exact ⟨_, x.disk, by rw [setDisk_disk]⟩
  · simp only [submit]
    split
    · exact ⟨_, _, rfl⟩
    · exact ⟨_, x.disk, by rw [setDisk_disk]⟩

lemma submit_alike (h : x.Alike y) (c : SiteCommand) :
    (submit c x).1.Alike (submit c y).1 ∧ (submit c x).2.Alike (submit c y).2 := by
  by_cases hfile : (∃ text, c = .putFile text) ∨ c = .deleteFile
  · obtain ⟨reply, disk, hx⟩ := submit_file hfile x
    obtain ⟨reply', disk', hy⟩ := submit_file hfile y
    rw [hx, hy]
    exact ⟨.replied reply reply', h.setDisk disk disk'⟩
  · cases h with
    | up clock config h =>
      have hturn := submitService_alike h clock c
      cases c with
      | advance millis => exact ⟨.replied _ _, .up _ config (h.passIfDue _)⟩
      | showFile => exact ⟨.replied _ _, .up clock config h⟩
      | putFile text => simp at hfile
      | deleteFile => simp at hfile
      | startReaper => exact ⟨.replied _ _, .up (clock + 1) config (h.startReaper clock)⟩
      | _ => exact ⟨hturn.1, .up clock config hturn.2⟩
    | down clock config disk disk' =>
      cases c with
      | putFile text => simp at hfile
      | deleteFile => simp at hfile
      | _ => exact ⟨.replied _ _, .down _ config disk disk'⟩

/-- Sessions on sites go on alike whatever is on the disk. -/
theorem world_ignores : world.Ignores Alike where
  clock h := by cases h <;> rfl
  setClock time h := by
    cases h with
    | up clock config h => exact .up time config h
    | down clock config disk disk' => exact .down time config disk disk'
  submit c h := submit_alike h c
  resume key p busy h := by
    cases h with
    | up clock config h =>
      obtain ⟨hactivity, hservice⟩ := resume_alike h clock key p busy
      rw [resume_eq, resume_eq]
      exact ⟨hactivity, .up clock config hservice⟩
    | down clock config disk disk' => exact ⟨rfl, .down clock config disk disk'⟩
  expire key p h := by
    cases h with
    | @up clock config s t h =>
      have hreply : (world.expire key p ⟨clock, config, .ok s⟩).1 =
          (world.expire key p ⟨clock, config, .ok t⟩).1 := by
        simp only [world, withService, h.interfaces]
        cases t.interfaces.get? key.interface <;> rfl
      refine ⟨hreply, ?_⟩
      rw [expire_eq, expire_eq]
      exact .up clock config (withdraw_alike h key p)
    | down clock config disk disk' => exact ⟨rfl, .down clock config disk disk'⟩
  withdraw key p h := by
    cases h with
    | up clock config h =>
      rw [withdraw_eq, withdraw_eq]
      exact .up clock config (withdraw_alike h key p)
    | down clock config disk disk' => exact .down clock config disk disk'

/-- The reply to a change of a lease, or the first step of an allocation, does not depend on what is
on the disk. -/
lemma submit_eq_of_alike (h : x.Alike y)
    (hc : c.ChangesLease ∨ ∃ name r, c = .allocate name r) : (submit c x).1 = (submit c y).1 := by
  cases h with
  | down clock config disk disk' =>
    rcases hc with hc | ⟨name, r, rfl⟩
    · cases c <;> first | rfl | exact hc.elim
    · rfl
  | @up clock config s t h =>
    rcases hc with hc | ⟨name, r, rfl⟩
    · obtain ⟨ip, change, -, heq⟩ := exists_change hc clock
      have hreply : (submitService clock c s).1 = (submitService clock c t).1 := by
        rw [heq, heq, replyLease, replyLease, (changeLease_alike h clock ip change).1]
      cases c <;> first | exact hreply | exact hc.elim
    · exact (submitOn_alike h clock ⟨name, true⟩ (.allocate r)).1

end Site

end DhcpLeasing
