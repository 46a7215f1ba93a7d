import DhcpLeasing.Fleet
import DhcpLeasing.Proofs.Desk.Courses
import DhcpLeasing.Proofs.Session.Records

/-!
# Sessions on fleets

Seen from one of its interfaces, a session on a fleet is a run of steps of a desk, and an allocation
that it carries out is a call that takes its course. So what is shown of desks and calls holds of
sessions, with any prober and any commands:

* `Fleet.desk_steps`: the steps of a fleet are steps of each of its interfaces, which carries out no
  commands but those that the fleet gives it;
* `Fleet.course_of_follows`, `Fleet.carryOut_ended`: the command to allocate an address is a call,
  with the probes and the times that the session has;
* `Fleet.Allocates.recorded`, `Fleet.recorded_of_completes`: the session has these probes on record.
-/

namespace DhcpLeasing

/-- Whether a command to a fleet has the interface at a place carry out the given command. -/
def FleetCommand.Gives (place : ℕ) (command : InterfaceCommand) : FleetCommand → Prop
  | .on key c => key = place ∧ c = command
  | .reapPass _ => ∃ time, command = .reap (some time)
  | _ => False

/-- Whether a command to a fleet gives the interface at a place none but allowed commands. -/
def FleetCommand.Within (place : ℕ) (allowed : InterfaceCommand → Prop) (c : FleetCommand) : Prop :=
  ∀ command, c.Gives place command → allowed command

namespace Fleet

open Relation

variable {f f' : Fleet} {place : ℕ} {i : Interface} {waiting waiting' : List (ℕ × Pending)}
  {allowed : InterfaceCommand → Prop}

/-! ## What one interface does -/

section WithInterface

variable {α : Type} {absent : α} {act : Interface → α × Interface}

lemma withInterface_of_some (hi : f.interfaces[place]? = some i) :
    f.withInterface place absent act =
      ((act i).1, { f with interfaces := f.interfaces.set place (act i).2 }) := by
  simp only [withInterface, hi]

lemma interface_withInterface (hi : f.interfaces[place]? = some i) :
    (f.withInterface place absent act).2.interfaces[place]? = some (act i).2 := by
  obtain ⟨hlt, -⟩ := List.getElem?_eq_some_iff.1 hi
  rw [withInterface_of_some hi, List.getElem?_set_self hlt]

lemma clock_withInterface : (f.withInterface place absent act).2.clock = f.clock := by
  unfold withInterface
  split <;> rfl

lemma interface_withInterface_of_ne {key : ℕ} (h : key ≠ place) :
    (f.withInterface key absent act).2.interfaces[place]? = f.interfaces[place]? := by
  unfold withInterface
  split
  · rfl
  · exact List.getElem?_set_ne h

end WithInterface

/-- The fleet with another interface at a place. -/
def replace (f : Fleet) (place : ℕ) (i : Interface) : Fleet :=
  { f with interfaces := f.interfaces.set place i }

lemma interface_replace (hi : f.interfaces[place]? = some i) (i' : Interface) :
    (f.replace place i').interfaces[place]? = some i' := by
  obtain ⟨hlt, -⟩ := List.getElem?_eq_some_iff.1 hi
  rw [replace, List.getElem?_set_self hlt]

lemma resume_of_some (hi : f.interfaces[place]? = some i) (p : Pending) (busy : Bool) :
    world.resume place p busy f =
      ((i.resume f.clock p busy).1.activity.under place,
        f.replace place (i.resume f.clock p busy).2) := by
  simp only [world, withInterface_of_some hi, replace]

lemma expire_of_some (hi : f.interfaces[place]? = some i) (p : Pending) :
    world.expire place p f = (.lease (.error .timeout), f.replace place (i.abandon p)) := by
  simp only [world, withInterface_of_some hi, replace]

lemma withdraw_of_some (hi : f.interfaces[place]? = some i) (p : Pending) :
    world.withdraw place p f = f.replace place (i.abandon p) := by
  simp only [world, withInterface_of_some hi, replace]

lemma submit_allocate_of_some (hi : f.interfaces[place]? = some i) (r : ClientRequest) :
    world.submit (.on place (.allocate r)) f =
      ((i.begin f.clock (r.at f.clock)).1.activity.under place,
        f.replace place (i.begin f.clock (r.at f.clock)).2) := by
  simp only [world, submit, withInterface_of_some hi, Interface.submit, replace]

/-- A fleet keeps time. -/
lemma world_timed : world.Timed where
  clock_setClock _ _ := rfl
  clock_withdraw _ _ _ := clock_withInterface

/-- What an interface elsewhere does makes nothing wait here. -/
lemma waitingOn_withInterface_of_ne {key : ℕ} (h : key ≠ place)
    (act : Interface → Activity Unit Reply × Interface) (f : Fleet)
    (waiting : List (ℕ × Pending)) :
    waitingOn id place ((f.withInterface key (.replied .unattended) fun i =>
      ((act i).1.under key, (act i).2)).1.suspend waiting) = waitingOn id place waiting := by
  unfold withInterface
  split
  · rfl
  · next i _ => exact waitingOn_suspend_of_ne h (act i).1 waiting

/-! ## Steps -/

/-- A command to a fleet, up to the first probe, is a step of each of its interfaces, or none. -/
lemma desk_steps_submit (hi : f.interfaces[place]? = some i) {c : FleetCommand}
    (hc : c.Within place allowed) (waiting : List (ℕ × Pending)) :
    ∃ i', (f.submit c).2.interfaces[place]? = some i' ∧
      ReflTransGen (Desk.StepBy fun _ _ => allowed) ⟨i, waitingOn id place waiting⟩
        ⟨i', waitingOn id place ((f.submit c).1.suspend waiting)⟩ := by
  cases c with
  | on key command =>
    by_cases hkey : key = place
    · subst hkey
      refine ⟨_, interface_withInterface hi, ?_⟩
      simp only [submit, withInterface_of_some hi]
      rw [waitingOn_suspend_of_eq (id_eq key)]
      exact .single (.submit f.clock i _ (hc command ⟨rfl, rfl⟩))
    · refine ⟨i, (interface_withInterface_of_ne hkey).trans hi, ?_⟩
      have hwaiting := waitingOn_withInterface_of_ne hkey (·.submit f.clock command) f waiting
      exact hwaiting ▸ .refl
  | reapPass time =>
    -- the reaper gives every interface the same command
    have hreap : ∀ r, InterfaceCommand.reap (some (time.getD (.ofMillis f.clock))) ≠
        .allocate r := by
      intro r
      simp
    refine ⟨(i.reapExpired (time.getD (.ofMillis f.clock))).2, ?_, ?_⟩
    · simp [submit, Reaper.pass, hi]
    · exact .single (.command f.clock hreap i _ (hc _ ⟨_, rfl⟩))
  | advance millis => exact ⟨i, hi, .refl⟩
  | reapInterval => exact ⟨i, hi, .refl⟩
  | refuse e => exact ⟨i, hi, .refl⟩

/-- The answer to a probe is a step of the interface that waits for it, and none of another one. -/
lemma desk_steps_resume (hi : f.interfaces[place]? = some i) (key : ℕ) (p : Pending) (busy : Bool)
    (waiting : List (ℕ × Pending)) :
    ∃ i', (world.resume key p busy f).2.interfaces[place]? = some i' ∧
      ReflTransGen (Desk.StepBy fun _ _ => allowed) ⟨i, waitingOn id place ((key, p) :: waiting)⟩
        ⟨i', waitingOn id place ((world.resume key p busy f).1.suspend waiting)⟩ := by
  by_cases hkey : key = place
  · subst hkey
    refine ⟨_, interface_withInterface hi, ?_⟩
    simp only [world, withInterface_of_some hi]
    rw [waitingOn_suspend_of_eq (id_eq key), waitingOn_cons_of_eq (id_eq key)]
    exact .single (.resume f.clock busy i p [] _)
  · refine ⟨i, (interface_withInterface_of_ne hkey).trans hi, ?_⟩
    have hwaiting := waitingOn_withInterface_of_ne hkey
      (fun i => ((i.resume f.clock p busy).1.activity, (i.resume f.clock p busy).2)) f waiting
    rw [waitingOn_cons_of_ne hkey]
    exact hwaiting ▸ .refl

/-- The end of an allocation that nobody waits for is a step of its interface, and none of another
one. -/
lemma desk_steps_abandon {α : Type} (hi : f.interfaces[place]? = some i) (key : ℕ) (p : Pending)
    (absent reply : α) (waiting : List (ℕ × Pending)) :
    ∃ i', (f.withInterface key absent fun i => (reply, i.abandon p)).2.interfaces[place]? =
        some i' ∧
      ReflTransGen (Desk.StepBy fun _ _ => allowed) ⟨i, waitingOn id place ((key, p) :: waiting)⟩
        ⟨i', waitingOn id place waiting⟩ := by
  by_cases hkey : key = place
  · subst hkey
    refine ⟨_, interface_withInterface hi, ?_⟩
    rw [waitingOn_cons_of_eq (id_eq key)]
    exact .single (.abandon i p [] _)
  · refine ⟨i, (interface_withInterface_of_ne hkey).trans hi, ?_⟩
    rw [waitingOn_cons_of_ne hkey]

/-- The step of a fleet is a step of each of its interfaces, or none. -/
theorem desk_steps_of_step (h : world.StepBy (·.Within place allowed) (f, waiting) (f', waiting'))
    (hi : f.interfaces[place]? = some i) :
    ∃ i', f'.interfaces[place]? = some i' ∧
      ReflTransGen (Desk.StepBy fun _ _ => allowed) ⟨i, waitingOn id place waiting⟩
        ⟨i', waitingOn id place waiting'⟩ := by
  cases h with
  | setClock time => exact ⟨i, hi, .refl⟩
  | submit hc => exact desk_steps_submit hi hc waiting
  | resume key p busy _ rest => exact desk_steps_resume hi key p busy rest
  | expire key p => exact desk_steps_abandon hi key p _ _ waiting'
  | withdraw key p => exact desk_steps_abandon hi key p _ _ waiting'

/-- A run of steps of a fleet is a run of each of its interfaces. -/
lemma desk_steps {x x' : Fleet × List (ℕ × Pending)}
    (h : ReflTransGen (world.StepBy (·.Within place allowed)) x x')
    (hi : x.1.interfaces[place]? = some i) :
    ∃ i', x'.1.interfaces[place]? = some i' ∧
      ReflTransGen (Desk.StepBy fun _ _ => allowed) ⟨i, waitingOn id place x.2⟩
        ⟨i', waitingOn id place x'.2⟩ := by
  induction h with
  | refl => exact ⟨i, hi, .refl⟩
  | tail _ hstep ih =>
    obtain ⟨i₁, hi₁, hbefore⟩ := ih
    obtain ⟨i₂, hi₂, hlast⟩ := desk_steps_of_step hstep hi₁
    exact ⟨i₂, hi₂, hbefore.trans hlast⟩

/-! ## Sessions -/

variable {s s' : Session Fleet FleetCommand Reply}

/-- What a session does while nothing else waits, it can do while an allocation waits. -/
lemma meanwhile_of_steps (h : world.Steps (f, []) (f', [])) (hi : f.interfaces[place]? = some i) :
    ∃ i', f'.interfaces[place]? = some i' ∧ Desk.Meanwhile i i' := by
  have hsteps : ReflTransGen (world.StepBy (·.Within place fun _ => True)) (f, []) (f', []) :=
    ReflTransGen.mono (fun _ _ hstep => hstep.mono fun _ _ _ _ => trivial) _ _ h
  exact desk_steps hsteps hi

/-! ## Allocations -/

lemma under_eq_waiting {key : ℕ} {progress : Progress} {p : Pending}
    (h : progress.activity.under place = .waiting key p) :
    progress = .probing p ∧ key = place := by
  cases progress with
  | done result => simp [Progress.activity, Activity.under] at h
  | probing q =>
    obtain ⟨rfl, rfl⟩ := Activity.waiting.inj h
    exact ⟨rfl, rfl⟩

lemma under_eq_replied {progress : Progress} {reply : Reply}
    (h : progress.activity.under place = .replied reply) :
    ∃ result, progress = .done result ∧ reply = .lease result := by
  cases progress with
  | done result => exact ⟨result, rfl, (Activity.replied.inj h).symm⟩
  | probing q => simp [Progress.activity, Activity.under] at h

section Follows

variable {depth : ℕ} {outer : List (Option ℕ)} {r : ClientRequest} {probes : List (IpAddr × Bool)}
  {activity : Activity ℕ Reply} {key : ℕ} {p : Pending} {others : List Pending}

/-- What a session does during a probe happens while the allocation waits. -/
lemma meanwhile_of_probing {result : Except (Fin (outer.length + 1)) Bool}
    (h : Session.probing world depth outer p s = (result, s'))
    (hi : s.world.interfaces[place]? = some i) :
    ∃ i', s'.world.interfaces[place]? = some i' ∧ Desk.Meanwhile i i' := by
  have hsteps := Session.probing_steps world depth outer p s []
  rw [h] at hsteps
  exact meanwhile_of_steps hsteps hi

/-- An allocation that a session follows takes its course: the probes are those that the session
has had answered, and every step is taken at the time on the clock. -/
theorem course_of_follows (hi : s.world.interfaces[place]? = some i)
    (h : Session.Follows world (Session.probing world depth outer)
      (world.submit (.on place (.allocate r)) s.world).1
      (s.setWorld (world.submit (.on place (.allocate r)) s.world).2) probes activity s') :
    ∃ left progress i', activity = progress.activity.under place ∧
      s'.world.interfaces[place]? = some i' ∧
      Desk.Course (r.at s.world.clock) i probes s'.world.clock left (progress, i') := by
  induction h with
  | refl =>
    rw [submit_allocate_of_some hi]
    exact ⟨i, _, _, rfl, interface_replace hi _, .begin s.world.clock⟩
  | @answered probes key p s₁ s₂ busy _ hprobe ih =>
    obtain ⟨left, progress, i₁, hactivity, hi₁, hcourse⟩ := ih
    obtain ⟨rfl, rfl⟩ := under_eq_waiting hactivity.symm
    obtain ⟨i₂, hi₂, hmeanwhile⟩ := meanwhile_of_probing hprobe hi₁
    rw [resume_of_some hi₂]
    exact ⟨i₂, _, _, rfl, interface_replace hi₂ _, hcourse.resume hmeanwhile s₂.world.clock busy⟩

/-- All probes of an allocation have the same time to be answered. -/
lemma probeTimeout_of_follows (hi : s.world.interfaces[place]? = some i)
    (hsound : Desk.Sound ⟨i, others⟩)
    (h : Session.Follows world (Session.probing world depth outer)
      (world.submit (.on place (.allocate r)) s.world).1
      (s.setWorld (world.submit (.on place (.allocate r)) s.world).2) probes (.waiting key p) s') :
    p.claim.probeTimeout = i.probeTimeout := by
  obtain ⟨left, progress, i', hactivity, -, hcourse⟩ := course_of_follows hi h
  obtain ⟨rfl, -⟩ := under_eq_waiting hactivity.symm
  rw [(hcourse.accounts hsound).claim_eq, Interface.claim]

end Follows

/-- How far a session has got with the command to allocate an address when some of its probes have
been answered. -/
def Allocates (place depth : ℕ) (outer : List (Option ℕ)) (r : ClientRequest)
    (s : Session Fleet FleetCommand Reply) (probes : List (IpAddr × Bool))
    (activity : Activity ℕ Reply) (s' : Session Fleet FleetCommand Reply) : Prop :=
  Session.Follows world (Session.probe world outer (Session.carryOut world depth))
    (world.submit (.on place (.allocate r)) s.world).1
    (s.setWorld (world.submit (.on place (.allocate r)) s.world).2) probes activity s'

section Allocates

variable {depth : ℕ} {outer : List (Option ℕ)} {r : ClientRequest} {probes : List (IpAddr × Bool)}
  {activity : Activity ℕ Reply} {key : ℕ} {p : Pending} {others : List Pending}

lemma Allocates.follows (h : Allocates place depth outer r s probes activity s') :
    Session.Follows world (Session.probing world (depth + 1) outer)
      (world.submit (.on place (.allocate r)) s.world).1
      (s.setWorld (world.submit (.on place (.allocate r)) s.world).2) probes activity s' := h

/-- The session has the probes on record, with their answers. -/
lemma Allocates.recorded {prober : Prober FleetCommand}
    (h : Allocates place depth outer r s probes activity s')
    (hi : s.world.interfaces[place]? = some i) (hsound : Desk.Sound ⟨i, others⟩)
    (hprober : s.prober = some prober) : s.Records prober i.probeTimeout probes none s' :=
  .of_setWorld (h.follows.recorded hprober (probeTimeout_of_follows hi hsound))

/-- A call that waits for a probe in a session has taken its course up to there. -/
lemma Allocates.course (h : Allocates place depth outer r s probes (.waiting key p) s')
    (hi : s.world.interfaces[place]? = some i) :
    key = place ∧ ∃ left i', s'.world.interfaces[place]? = some i' ∧
      Desk.Course (r.at s.world.clock) i probes s'.world.clock left (.probing p, i') := by
  obtain ⟨left, progress, i', hactivity, hi', hcourse⟩ := course_of_follows hi h.follows
  obtain ⟨rfl, rfl⟩ := under_eq_waiting hactivity.symm
  exact ⟨rfl, left, i', hi', hcourse⟩

/-- What a call finds when the probe that it waits for in a session is over. -/
lemma Allocates.probed {s₁ s₂ : Session Fleet FleetCommand Reply}
    {result : Except (Fin (outer.length + 1)) Bool}
    (h : Allocates place depth outer r s probes (.waiting key p) s₁)
    (hi : s.world.interfaces[place]? = some i)
    (hprobe : Session.probe world outer (Session.carryOut world depth) p s₁ = (result, s₂)) :
    key = place ∧ ∃ found i₁ left,
      Desk.Course (r.at s.world.clock) i probes s₁.world.clock found (.probing p, i₁) ∧
      Desk.Meanwhile i₁ left ∧ s₂.world.interfaces[place]? = some left := by
  obtain ⟨hkey, found, i₁, hi₁, hcourse⟩ := h.course hi
  have hprobing : Session.probing world (depth + 1) outer p s₁ = (result, s₂) := hprobe
  obtain ⟨left, hleft, hmeanwhile⟩ := meanwhile_of_probing hprobing hi₁
  exact ⟨hkey, found, i₁, left, hcourse, hmeanwhile, hleft⟩

/-- A session that has got to a wait for a probe goes on from there, and may make this probe. -/
lemma Allocates.carryOut_eq (h : Allocates place depth outer r s probes (.waiting key p) s')
    (hi : s.world.interfaces[place]? = some i) (hsound : Desk.Sound ⟨i, others⟩) :
    ∃ n, n + 1 + probes.length = Allocation.maxProbes ∧
      Session.carryOut world (depth + 1) outer (.on place (.allocate r)) s =
        Session.follow world (Session.probe world outer (Session.carryOut world depth)) (n + 1)
          (.waiting key p) s' := by
  obtain ⟨-, left, i', -, hcourse⟩ := h.course hi
  have hprobes := (hcourse.accounts hsound).probes_le
  have hn : Allocation.maxProbes - (probes.length + 1) + 1 + probes.length =
      Allocation.maxProbes := by omega
  refine ⟨_, hn, ?_⟩
  rw [← Session.follow_of_follows h, hn]
  rfl

end Allocates

/-- What comes of the command to allocate an address, with the probes that have been answered: the
call is over, and its result is the reply; or it is cut off by a deadline of an outer allocation,
and gives up its reservation. -/
inductive Ended (request : Request) (place : ℕ) (i : Interface) (outer : List (Option ℕ))
    (probes : List (IpAddr × Bool)) (s' : Session Fleet FleetCommand Reply) :
    Except (Fin outer.length) Reply → Prop
  | replied {left i' : Interface} {result : Except LeaseError Lease}
      (interface : s'.world.interfaces[place]? = some i')
      (course : Desk.Course request i probes s'.world.clock left (.done result, i')) :
      Ended request place i outer probes s' (.ok (.lease result))
  | cutOff {now deadline : ℕ} {left i₁ left' : Interface} {p : Pending} {j : Fin outer.length}
      (interface : s'.world.interfaces[place]? = some (left'.abandon p))
      (course : Desk.Course request i probes now left (.probing p, i₁))
      (meanwhile : Desk.Meanwhile i₁ left') (hdeadline : outer.get j = some deadline)
      (passed : deadline ≤ s'.world.clock) : Ended request place i outer probes s' (.error j)

section CarryOut

variable {depth : ℕ} {outer : List (Option ℕ)} {r : ClientRequest}
  {reply : Except (Fin outer.length) Reply} {others : List Pending}

/-- The command to allocate an address is a call that takes its course, with the probes that the
session has had answered. -/
theorem carryOut_ended (hi : s.world.interfaces[place]? = some i)
    (hsound : Desk.Sound ⟨i, others⟩)
    (h : Session.carryOut world depth outer (.on place (.allocate r)) s = (reply, s')) :
    ∃ probes cut,
      Session.Completes world depth outer (.on place (.allocate r)) s probes cut (reply, s') ∧
      Ended (r.at s.world.clock) place i outer probes s' reply := by
  rw [Session.carryOut_eq_follow] at h
  obtain ⟨probes, activity, s₁, hfollows, hend⟩ := Session.exists_follows h
  obtain ⟨left, progress, i₁, hactivity, hi₁, hcourse⟩ := course_of_follows hi hfollows
  rcases hend with hend | ⟨hlength, key, p, hwaiting⟩
  · refine ⟨probes, activity.awaited, ⟨activity, s₁, hfollows, rfl, hend⟩, ?_⟩
    -- the clock does not go on in the last step
    cases hend with
    | replied reply =>
      obtain ⟨result, rfl, rfl⟩ := under_eq_replied hactivity.symm
      exact .replied hi₁ hcourse
    | @expired key p _ s₂ _ hprobe =>
      obtain ⟨rfl, rfl⟩ := under_eq_waiting hactivity.symm
      obtain ⟨i₂, hi₂, hmeanwhile⟩ := meanwhile_of_probing hprobe hi₁
      obtain ⟨deadline, hdeadline, hpassed⟩ := (Session.probing_orderly world_timed hprobe).cut rfl
      have hrequest := (hcourse.wait hsound hmeanwhile).2
      replace hdeadline : p.claim.request.deadline = some deadline := hdeadline
      rw [hrequest] at hdeadline
      rw [expire_of_some hi₂]
      exact .replied (interface_replace hi₂ _) (hcourse.expire hmeanwhile hdeadline hpassed)
    | @withdrawn key p _ s₂ j hj hprobe =>
      obtain ⟨rfl, rfl⟩ := under_eq_waiting hactivity.symm
      obtain ⟨i₂, hi₂, hmeanwhile⟩ := meanwhile_of_probing hprobe hi₁
      obtain ⟨deadline, hdeadline, hpassed⟩ := (Session.probing_orderly world_timed hprobe).cut rfl
      rw [withdraw_of_some hi₂]
      exact .cutOff (interface_replace hi₂ _) hcourse hmeanwhile hdeadline hpassed
  · -- a call that still waits has not yet made all probes that it may
    obtain ⟨rfl, -⟩ := under_eq_waiting (hactivity.symm.trans hwaiting)
    have hprobes := (hcourse.accounts hsound).probes_le
    omega

/-- The session has these probes on record, with their answers, and the one that was cut short. -/
lemma recorded_of_completes {probes : List (IpAddr × Bool)} {cut : Option IpAddr}
    {prober : Prober FleetCommand} (hi : s.world.interfaces[place]? = some i)
    (hsound : Desk.Sound ⟨i, others⟩) (hprober : s.prober = some prober) (hdepth : 0 < depth)
    (h : Session.Completes world depth outer (.on place (.allocate r)) s probes cut (reply, s')) :
    s.Records prober i.probeTimeout probes cut s' := by
  obtain ⟨depth, rfl⟩ : ∃ n, depth = n + 1 := ⟨depth - 1, by omega⟩
  exact h.recorded hprober (probeTimeout_of_follows hi hsound)

end CarryOut

end Fleet

end DhcpLeasing
