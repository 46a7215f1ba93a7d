import DhcpLeasing.Proofs.Service.Store
import DhcpLeasing.Proofs.Session.Following

/-!
# Refusals

What a service refuses leaves no trace.

* `Site.submit_refused_change`: a change of a lease that is refused leaves the site as it is.
* `Site.allocate_refused`: an allocation that gets no lease leaves the interfaces as they are. While
  it waits it has a reservation, and its own steps keep to that until it ends, `Service.Traceless`.
* `Site.allocate_unsaved`: it leaves what has been saved as it is, too, since nothing is written
  before a lease has been granted.
-/

namespace DhcpLeasing

namespace Service

variable {s : Service} {name : String} {i i' : Interface} {others : List Pending} {now : ℕ}
  {w : List (SiteKey × Pending)} {claim : Claim} {progress : Progress} {key : SiteKey} {p : Pending}
  {before : SortedMap String Interface} {view : Except Disk (SortedMap String Interface)}

lemma setInterface_of_get? (hi : s.interfaces.get? name = some i) : s.setInterface name i = s := by
  rw [setInterface, SortedMap.insert_of_get? hi]

/-- A change of a lease that is refused leaves the service as it is. -/
lemma changeLease_refused (h : Tracked s w) (ip : IpAddr)
    {change : Interface → Except LeaseError Lease × Interface}
    (hchange : ∀ i, Carries i now (change i)) {e : LeaseError}
    (he : (s.changeLease now ip change).1 = .error e) : (s.changeLease now ip change).2 = s := by
  unfold changeLease at he ⊢
  cases hserves : s.interfaceFor ip with
  | error e => rfl
  | ok found =>
    obtain ⟨name, i⟩ := found
    have hi := interfaceFor_eq_ok hserves
    have hcarries := hchange i
    rcases hresult : change i with ⟨result, i'⟩
    rw [hresult] at hcarries
    simp only [hserves, hresult] at he ⊢
    subst he
    rw [hcarries.eq_of_error (h.sound hi).interface, afterChange, setInterface_of_get? hi]

/-! ## Allocations -/

/-- What an allocation has done to the interfaces of a service, `before` when it began, of which it
is the one called `name` that it asks. While it waits it has a reservation, and when it has not got
a lease it has done nothing. -/
def Traceless (before : SortedMap String Interface) (name : String) (i : Interface)
    (others : List Pending) :
    Activity SiteKey Reply → Except Disk (SortedMap String Interface) → Prop
  | .replied reply, view => (∀ l, reply ≠ .lease (.ok l)) → view = .ok before
  | .waiting key p, view => key = ⟨name, true⟩ ∧ ∃ held, view = .ok (before.insert name held) ∧
      held.abandon p = i ∧ Desk.Sound ⟨held, p :: others⟩

/-- What a step of an allocation comes to. -/
lemma follow_traceless (hi : before.get? name = some i) (hsound : Desk.Sound ⟨i, others⟩)
    (hs : ∀ j, s.interfaces.insert name j = before.insert name j)
    (ho : Interface.Outcome now claim i (progress, i')) :
    Traceless before name i others (Site.follow now ⟨name, true⟩ i' s progress.activity).1
      (.ok (Site.follow now ⟨name, true⟩ i' s progress.activity).2.interfaces) := by
  cases progress with
  | done result =>
    rw [Progress.activity, follow_noted rfl]
    intro hnot
    cases result with
    | ok l => exact absurd rfl (hnot l)
    | error e =>
      obtain rfl := ho.eq_of_error
      rw [afterChange, setInterface, hs, SortedMap.insert_of_get? hi]
  | probing p =>
    have hheld : Desk.Sound ⟨i', p :: others⟩ := hsound.settle ho
    obtain ⟨-, -, scope, hscope, -, -, -, rfl⟩ := ho.probing
    refine ⟨rfl, _, ?_, Interface.abandon_hold hscope, hheld⟩
    rw [Progress.activity, Site.follow, setInterface, hs]

/-- The service when an allocation that waits goes on, or ends. -/
lemma Traceless.interface (h : Traceless before name i others (.waiting key p) (.ok s.interfaces)) :
    ∃ held, s.interfaces.get? key.interface = some held ∧ held.abandon p = i ∧
      Desk.Sound ⟨held, p :: others⟩ ∧ key = ⟨name, true⟩ ∧
      ∀ j, s.interfaces.insert name j = before.insert name j := by
  obtain ⟨rfl, held, hview, habandon, hsound⟩ := h
  have hinterfaces : s.interfaces = before.insert name held := Except.ok.inj hview
  refine ⟨held, ?_, habandon, hsound, rfl, ?_⟩
  · rw [hinterfaces, SortedMap.get?_insert, if_pos rfl]
  · intro j
    rw [hinterfaces, SortedMap.insert_insert]

lemma Traceless.resume (hi : before.get? name = some i) (hsound : Desk.Sound ⟨i, others⟩)
    (h : Traceless before name i others (.waiting key p) (.ok s.interfaces)) (now : ℕ)
    (busy : Bool) :
    Traceless before name i others (s.resume now key p busy).1
      (.ok (s.resume now key p busy).2.interfaces) := by
  obtain ⟨held, hheld, rfl, hwait, rfl, hs⟩ := h.interface
  have halone : Desk.Sound ⟨held, [] ++ p :: others⟩ := hwait
  have ho := halone.resume_outcome now busy
  simp only [Service.resume, hheld]
  exact follow_traceless hi hsound hs ho

lemma Traceless.withdraw (hi : before.get? name = some i)
    (h : Traceless before name i others (.waiting key p) (.ok s.interfaces)) :
    (s.withdraw key p).interfaces = before := by
  obtain ⟨held, hheld, rfl, -, rfl, hs⟩ := h.interface
  simp only [Service.withdraw, hheld, setInterface]
  rw [hs, SortedMap.insert_of_get? hi]

lemma store_follow {activity : Activity Unit Reply}
    (h : ∀ l, (Site.follow now key i s activity).1 ≠ .replied (.lease (.ok l))) :
    (Site.follow now key i s activity).2.store = s.store := by
  have hquiet : ∀ l, activity ≠ .replied (.lease (.ok l)) := by
    rintro l rfl
    exact h l (follow_fst now key i s _)
  rw [(follow_quiet hquiet now key i s).1]
  rfl

lemma store_submitOn {command : InterfaceCommand}
    (h : ∀ l, (Site.submitOn now key command s).1 ≠ .replied (.lease (.ok l))) :
    (Site.submitOn now key command s).2.store = s.store := by
  unfold Site.submitOn at h ⊢
  cases hi : s.interfaces.get? key.interface with
  | none => rfl
  | some i =>
    simp only [hi] at h
    exact store_follow h

lemma store_resume {busy : Bool}
    (h : ∀ l, (s.resume now key p busy).1 ≠ .replied (.lease (.ok l))) :
    (s.resume now key p busy).2.store = s.store := by
  unfold Service.resume at h ⊢
  cases hi : s.interfaces.get? key.interface with
  | none => rfl
  | some i =>
    simp only [hi] at h
    exact store_follow h

lemma store_withdraw (s : Service) (key : SiteKey) (p : Pending) :
    (s.withdraw key p).store = s.store := by
  unfold Service.withdraw
  cases s.interfaces.get? key.interface <;> rfl

end Service

namespace Site

open Service

/-- The interfaces of the service, when it is up. -/
def interfaces (x : Site) : Except Disk (SortedMap String Interface) :=
  x.service.map Service.interfaces

/-- What the service has on disk, when it is up, and what it knows of its lease file. -/
def store (x : Site) : Except Disk (Disk × Bool × Option ℕ) :=
  x.service.map Service.store

variable {x : Site} {s : Session Site SiteCommand Reply} {s' : Session Site SiteCommand Reply}
  {sv : Service} {w : List (SiteKey × Pending)} {name : String} {r : ClientRequest} {depth : ℕ}
  {outer : List (Option ℕ)} {c : SiteCommand} {result : Except (Fin outer.length) Reply}

/-- A change of a lease that is refused leaves the site as it is. -/
lemma submit_refused_change (hx : x.service = .ok sv) (h : sv.Tracked w) (hc : c.ChangesLease) :
    ∃ result, (submit c x).1 = .replied (.lease result) ∧
      ((∀ l, result ≠ .ok l) → (submit c x).2 = x) := by
  obtain ⟨clock, config, service⟩ := x
  obtain rfl : service = .ok sv := hx
  obtain ⟨ip, change, hchange, heq⟩ := exists_change hc clock
  have hsubmit : submit c ⟨clock, config, .ok sv⟩ =
      (.replied (.lease (sv.changeLease clock ip change).1),
        ⟨clock, config, .ok (sv.changeLease clock ip change).2⟩) := by
    have hservice : submit c ⟨clock, config, .ok sv⟩ = ((submitService clock c sv).1,
        ⟨clock, config, .ok (submitService clock c sv).2⟩) := by
      cases c <;> first | rfl | exact hc.elim
    rw [hservice, heq, replyLease]
  rw [hsubmit]
  refine ⟨_, rfl, ?_⟩
  intro hnot
  cases hresult : (sv.changeLease clock ip change).1 with
  | ok l => exact absurd hresult (hnot l)
  | error e => rw [changeLease_refused h ip hchange hresult]

section Steps

variable {before : SortedMap String Interface} {i : Interface} {others : List Pending}
  {key : SiteKey} {p : Pending}

lemma traceless_resume (hi : before.get? name = some i) (hsound : Desk.Sound ⟨i, others⟩)
    (h : Traceless before name i others (.waiting key p) x.interfaces) (busy : Bool) :
    Traceless before name i others (world.resume key p busy x).1
      (world.resume key p busy x).2.interfaces := by
  obtain ⟨clock, config, service⟩ := x
  cases service with
  | error disk =>
    obtain ⟨-, held, hview, -⟩ := h
    cases hview
  | ok sv =>
    rw [resume_eq]
    exact Traceless.resume hi hsound h clock busy

lemma traceless_withdraw (hi : before.get? name = some i)
    (h : Traceless before name i others (.waiting key p) x.interfaces) :
    (world.withdraw key p x).interfaces = .ok before ∧
      (world.expire key p x).2.interfaces = .ok before := by
  obtain ⟨clock, config, service⟩ := x
  cases service with
  | error disk =>
    obtain ⟨-, held, hview, -⟩ := h
    cases hview
  | ok sv =>
    have hwithdraw : (sv.withdraw key p).interfaces = before := Traceless.withdraw hi h
    rw [withdraw_eq, expire_eq]
    exact ⟨congrArg Except.ok hwithdraw, congrArg Except.ok hwithdraw⟩

lemma store_resume_world {busy : Bool}
    (h : ∀ l, (world.resume key p busy x).1 ≠ .replied (.lease (.ok l))) :
    (world.resume key p busy x).2.store = x.store := by
  obtain ⟨clock, config, service⟩ := x
  cases service with
  | error disk => rfl
  | ok sv =>
    rw [resume_eq] at h ⊢
    exact congrArg Except.ok (store_resume h)

lemma store_withdraw_world (key : SiteKey) (p : Pending) (x : Site) :
    (world.withdraw key p x).store = x.store ∧ (world.expire key p x).2.store = x.store := by
  obtain ⟨clock, config, service⟩ := x
  cases service with
  | error disk => exact ⟨rfl, rfl⟩
  | ok sv =>
    rw [withdraw_eq, expire_eq]
    have hstore : (sv.withdraw key p).store = sv.store := store_withdraw sv key p
    exact ⟨congrArg Except.ok hstore, congrArg Except.ok hstore⟩

lemma store_submit_allocate
    (h : ∀ l, (submit (.allocate name r) x).1 ≠ .replied (.lease (.ok l))) :
    (submit (.allocate name r) x).2.store = x.store := by
  obtain ⟨clock, config, service⟩ := x
  cases service with
  | error disk => rfl
  | ok sv =>
    have hunsaved : (submitOn clock ⟨name, true⟩ (.allocate r) sv).2.store = sv.store :=
      store_submitOn h
    exact congrArg Except.ok hunsaved

end Steps

/-- An allocation that gets no lease leaves the interfaces as they are, if its probes do. -/
lemma allocate_refused (hx : s.world.service = .ok sv) (h : sv.Tracked w)
    (hspared : Session.Spared world (Session.probing world depth outer) interfaces
      (world.submit (.allocate name r) s.world).1
      (s.setWorld (world.submit (.allocate name r) s.world).2))
    (hcarry : Session.carryOut world depth outer (.allocate name r) s = (result, s'))
    (hresult : ∀ l, result ≠ .ok (.lease (.ok l))) : s'.world.interfaces = s.world.interfaces := by
  obtain ⟨clock, config, hworld⟩ : ∃ clock config, s.world = ⟨clock, config, .ok sv⟩ :=
    ⟨s.world.clock, s.world.config, by rw [← hx]⟩
  cases hi : sv.interfaces.get? name with
  | none =>
    -- nobody is asked
    have hsubmit : world.submit (.allocate name r) s.world =
        (.replied (.refused (.invalidRequest (.unknownInterface name))), s.world) := by
      simp only [hworld, world, submit, withService, submitService, submitOn, hi]
    rw [Session.carryOut_replied hsubmit] at hcarry
    obtain ⟨-, rfl⟩ := Prod.mk.inj hcarry
    rfl
  | some i =>
    have hsound := h.sound hi
    have hbefore : s.world.interfaces = .ok sv.interfaces := by rw [hworld]; rfl
    let Inv := Traceless sv.interfaces name i (waitingOn SiteKey.interface name w)
    have hbegin : Inv (world.submit (.allocate name r) s.world).1
        (world.submit (.allocate name r) s.world).2.interfaces := by
      have ho := Interface.begin_outcome hsound.interface clock (r.at clock)
      have hfollow : Inv
          (follow clock ⟨name, true⟩ (i.begin clock (r.at clock)).2 sv
            (i.begin clock (r.at clock)).1.activity).1
          (.ok (follow clock ⟨name, true⟩ (i.begin clock (r.at clock)).2 sv
            (i.begin clock (r.at clock)).1.activity).2.interfaces) :=
        follow_traceless hi hsound (fun _ => rfl) ho
      have hsubmit : world.submit (.allocate name r) s.world =
          ((submitOn clock ⟨name, true⟩ (.allocate r) sv).1,
            ⟨clock, config, .ok (submitOn clock ⟨name, true⟩ (.allocate r) sv).2⟩) := by
        rw [hworld]
        rfl
      rw [hsubmit]
      simp only [submitOn, hi]
      exact hfollow
    have hexpire : ∀ key p x, Inv (.waiting key p) (interfaces x) →
        Inv (.replied (world.expire key p x).1) (world.expire key p x).2.interfaces :=
      fun key p x h _ => (traceless_withdraw hi h).2
    rw [Session.carryOut_eq_follow] at hcarry
    rw [hbefore]
    rcases Session.follow_spared (fun key p busy x h => traceless_resume hi hsound h busy) hexpire
      hspared hbegin hcarry with ⟨reply, rfl, hend⟩ | ⟨key, p, x, hwait, -, hs'⟩
    · apply hend
      rintro l rfl
      exact hresult l rfl
    · rw [hs']
      exact (traceless_withdraw hi hwait).1

/-- An allocation that gets no lease leaves the store as it is, if its probes do. -/
lemma allocate_unsaved (hspared : Session.Spared world (Session.probing world depth outer) store
      (world.submit (.allocate name r) s.world).1
      (s.setWorld (world.submit (.allocate name r) s.world).2))
    (hcarry : Session.carryOut world depth outer (.allocate name r) s = (result, s'))
    (hresult : ∀ l, result ≠ .ok (.lease (.ok l))) : s'.world.store = s.world.store := by
  let Inv (activity : Activity SiteKey Reply) (view : Except Disk (Disk × Bool × Option ℕ)) :
      Prop :=
    (∀ l, activity ≠ .replied (.lease (.ok l))) → view = s.world.store
  have hresume : ∀ key p busy x, Inv (.waiting key p) (store x) →
      Inv (world.resume key p busy x).1 (world.resume key p busy x).2.store :=
    fun key p busy x h hnot => (store_resume_world hnot).trans (h (by simp))
  have hexpire : ∀ key p x, Inv (.waiting key p) (store x) →
      Inv (.replied (world.expire key p x).1) (world.expire key p x).2.store :=
    fun key p x h _ => (store_withdraw_world key p x).2.trans (h (by simp))
  have hbegin : Inv (world.submit (.allocate name r) s.world).1
      (world.submit (.allocate name r) s.world).2.store :=
    fun hnot => store_submit_allocate hnot
  rw [Session.carryOut_eq_follow] at hcarry
  rcases Session.follow_spared hresume hexpire hspared hbegin hcarry with
    ⟨reply, rfl, hend⟩ | ⟨key, p, x, hwait, -, hs'⟩
  · apply hend
    intro l hl
    obtain rfl := Activity.replied.inj hl
    exact hresult l rfl
  · rw [hs', (store_withdraw_world key p x).1]
    exact hwait (by simp)

/-- Whether the probes of an allocation leave the site alone, in some view of it. -/
def Spares {α : Type} (view : Site → α) (depth : ℕ) (outer : List (Option ℕ)) (name : String)
    (r : ClientRequest) (s : Session Site SiteCommand Reply) : Prop :=
  Session.Spared world (Session.probing world depth outer) view
    (world.submit (.allocate name r) s.world).1
    (s.setWorld (world.submit (.allocate name r) s.world).2)

/-- **Refusals leave no trace.** In every state that a service can come to: a change of a lease that
is refused changes nothing at all. An allocation that gets no lease, for whatever reason, leaves the
leases and the reservations of all interfaces as they were if its probes do, and the lease file with
what the service knows of it if its probes do. The other way round, the disk has no say in what is
refused: whatever is on it, and whether the file can be written or not, the results are the same. -/
theorem refusals_leave_no_trace {c : Config} {disk : Disk} {now count : ℕ} {x₀ : Site}
    {s₀ : Service} (hstart : Service.start now c disk = .ok (count, s₀)) (hx₀ : x₀.service = .ok s₀)
    (hrun : Runs (fun _ _ => True) (x₀, []) (x, w)) (hs : s.world = x) :
    (∀ command result s', command.ChangesLease →
      Session.carryOut world depth outer command s = (result, s') →
      (∀ l, result ≠ .ok (.lease (.ok l))) → s' = s) ∧
      (∀ name r result s', Session.carryOut world depth outer (.allocate name r) s = (result, s') →
        (∀ l, result ≠ .ok (.lease (.ok l))) →
        (Spares interfaces depth outer name r s → s'.world.interfaces = x.interfaces) ∧
          (Spares store depth outer name r s → s'.world.store = x.store)) ∧
      ∀ command t, command.ChangesLease ∨ (∃ name r, command = .allocate name r) →
        Session.Alike Alike s t →
        Session.EndsEqual Alike (Session.carryOut world depth outer command s)
          (Session.carryOut world depth outer command t) := by
  have htracked₀ : s₀.Tracked [] := Tracked.start hstart
  obtain ⟨sv, hx, hmoved⟩ := hrun.moved hx₀ htracked₀
  have htracked : sv.Tracked w := htracked₀.moved hmoved
  subst hs
  refine ⟨?_, ?_, ?_⟩
  · intro command result s' hcommand hcarry hresult
    obtain ⟨reply, hreply, hrefused⟩ := submit_refused_change hx htracked hcommand
    have hsubmit : world.submit command s.world =
        (.replied (.lease reply), (submit command s.world).2) := Prod.ext hreply rfl
    rw [Session.carryOut_replied hsubmit] at hcarry
    obtain ⟨rfl, rfl⟩ := Prod.mk.inj hcarry
    rw [hrefused]
    · rfl
    · rintro l rfl
      exact hresult l rfl
  · intro name r result s' hcarry hresult
    exact ⟨fun hspares => allocate_refused hx htracked hspares hcarry hresult,
      fun hspares => allocate_unsaved hspares hcarry hresult⟩
  · intro command t hcommand halike
    exact Session.carryOut_eq_of_submit world_ignores depth outer halike
      (submit_eq_of_alike halike.world hcommand)

/-- In the default deployment a client does not wait for the answer to its first probe, and an
operator adds a lease although there is a directory in the place of the lease file. -/
theorem exists_refusals_leave_no_trace : ∃ (s t : Session Site SiteCommand Reply)
    (r : ClientRequest) (l : Lease),
    (Session.carryOut world 1 [] (.allocate "eth0" r) s).1 = .ok (.lease (.error .timeout)) ∧
      (Session.carryOut world 1 [] (.allocate "eth0" r) s).2.world.interfaces =
        s.world.interfaces ∧
      (Session.carryOut world 1 [] (.allocate "eth0" r) s).2.world.store = s.world.store ∧
      (Session.carryOut world 1 [] (.release r.client l.ip) s).2 = s ∧
      (Session.carryOut world 1 [] (.addLease l) s).1 = .ok (.lease (.ok l)) ∧
      (Session.carryOut world 1 [] (.addLease l) s).2.world.fileText.isSome ∧
      (Session.carryOut world 1 [] (.addLease l) t).1 = .ok (.lease (.ok l)) ∧
      (Session.carryOut world 1 [] (.addLease l) t).2.world.fileText = none := by
  let r : ClientRequest := ⟨⟨[2, 0, 0, 0, 0, 1]⟩, .v4, none, some "Lamp", some 5⟩
  let l : Lease := .static (.v4 (.ofBytes 192 168 1 50)) ⟨[2, 0, 0, 0, 0, 2]⟩ "printer"
  let disk : Disk := .ofFiles []
  let s₀ : Service := ⟨.default, Service.interfacesOf .default, disk, false, none, none⟩
  let prober : Prober SiteCommand := fun _ _ => ⟨false, 10, []⟩
  let s : Session Site SiteCommand Reply := ⟨⟨0, .default, .ok s₀⟩, some prober, [], []⟩
  let t : Session Site SiteCommand Reply :=
    s.setWorld (s.world.setDisk (disk.addDirectory "leases.json"))
  have hstart : Service.start 0 .default disk = .ok (0, s₀) := by decide +kernel
  have hrun : Runs (fun _ _ => True) (s.world, []) (s.world, []) := .refl
  have hquiet : ∀ x, (s.setWorld x).Keeps fun _ => False := by
    intro x prober' hprober probed ip c hc
    obtain rfl := Option.some.inj hprober
    simp [prober] at hc
  have hspares : ∀ {α} {view : Site → α}, (∀ time x, view (world.setClock time x) = view x) →
      Spares view 1 [] "eth0" r s :=
    fun hview => Session.spared_of_keeps hview (hquiet _) _
  have halike : Session.Alike Alike s t := ⟨.up 0 .default ⟨rfl, rfl, rfl⟩, rfl, rfl⟩
  have htimeout : (Session.carryOut world 1 [] (.allocate "eth0" r) s).1 =
      .ok (.lease (.error .timeout)) := by decide +kernel
  have hrelease : (Session.carryOut world 1 [] (.release r.client l.ip) s).1 =
      .ok (.lease (.error (.notFound r.client l.ip))) := by decide +kernel
  have hadd : (Session.carryOut world 1 [] (.addLease l) s).1 = .ok (.lease (.ok l)) := by
    decide +kernel
  obtain ⟨hchanges, hallocates, hdisk⟩ :=
    @refusals_leave_no_trace _ s [] 1 [] .default disk 0 0 _ s₀ hstart rfl hrun rfl
  have hkept := hallocates "eth0" r _ _
    (Prod.mk.eta (p := Session.carryOut world 1 [] (.allocate "eth0" r) s)).symm
    (by rw [htimeout]; simp)
  have hreleased := hchanges (.release r.client l.ip) _ _ trivial
    (Prod.mk.eta (p := Session.carryOut world 1 [] (.release r.client l.ip) s)).symm
    (by rw [hrelease]; simp)
  have hadd' : (Session.carryOut world 1 [] (.addLease l) t).1 = .ok (.lease (.ok l)) :=
    (hdisk (.addLease l) t (.inl trivial) halike).result.symm.trans hadd
  exact ⟨s, t, r, l, htimeout, hkept.1 (hspares fun _ _ => rfl), hkept.2 (hspares fun _ _ => rfl),
    hreleased, hadd, by decide +kernel, hadd', by decide +kernel⟩

end Site

end DhcpLeasing
