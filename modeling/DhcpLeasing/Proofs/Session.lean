import DhcpLeasing.Session
import Mathlib.Logic.Relation
import Mathlib.Tactic.Common

/-!
# Sessions as runs of steps

What a session does to its world, whatever its prober does and however deep allocations are nested,
is a run of single steps: `carryOut_steps`. What is shown of all runs of steps holds of sessions. If
only certain commands are begun, by the prober as well, then the steps begin no others:
`carryOut_leads`.

Beside the world a step sees the allocations that wait. A command leaves them as it finds them: what
it has begun has ended when it is over.
-/

namespace DhcpLeasing

variable {W C K R : Type}

/-- The allocations that wait after a step of a command, the one begun last first. -/
def Activity.suspend (waiting : List (K × Pending)) : Activity K R → List (K × Pending)
  | replied _ => waiting
  | .waiting key p => (key, p) :: waiting

/-! ## Allocations that wait on one of many interfaces -/

/-- The allocations that wait on an interface after what it has done, beside others. -/
def Activity.pendings (others : List Pending) : Activity Unit R → List Pending
  | replied _ => others
  | .waiting () p => p :: others

section WaitingOn

variable {I : Type} [DecidableEq I] {interface : K → I}

/-- The allocations that wait on one interface, where `interface` says on which one it is that an
allocation with a given key waits. -/
def waitingOn (interface : K → I) (name : I) (waiting : List (K × Pending)) : List Pending :=
  (waiting.filter (interface ·.1 = name)).map (·.2)

variable {name : I} {key : K}

lemma waitingOn_cons_of_eq (h : interface key = name) (p : Pending)
    (waiting : List (K × Pending)) :
    waitingOn interface name ((key, p) :: waiting) = p :: waitingOn interface name waiting := by
  simp [waitingOn, h]

lemma waitingOn_cons_of_ne (h : interface key ≠ name) (p : Pending)
    (waiting : List (K × Pending)) :
    waitingOn interface name ((key, p) :: waiting) = waitingOn interface name waiting := by
  simp [waitingOn, h]

lemma waitingOn_append (interface : K → I) (name : I) (before after : List (K × Pending)) :
    waitingOn interface name (before ++ after) =
      waitingOn interface name before ++ waitingOn interface name after := by
  simp [waitingOn]

/-- One of the allocations that wait on an interface, wherever it is among them. -/
lemma waitingOn_middle_of_eq (h : interface key = name) (p : Pending)
    (before after : List (K × Pending)) :
    waitingOn interface name (before ++ (key, p) :: after) =
      waitingOn interface name before ++ p :: waitingOn interface name after := by
  rw [waitingOn_append, waitingOn_cons_of_eq h]

lemma waitingOn_middle_of_ne (h : interface key ≠ name) (p : Pending)
    (before after : List (K × Pending)) :
    waitingOn interface name (before ++ (key, p) :: after) =
      waitingOn interface name (before ++ after) := by
  rw [waitingOn_append, waitingOn_append, waitingOn_cons_of_ne h]

/-- What waits on an interface after what it has done is what it leaves waiting. -/
lemma waitingOn_suspend_of_eq (h : interface key = name) (activity : Activity Unit R)
    (waiting : List (K × Pending)) :
    waitingOn interface name ((activity.under key).suspend waiting) =
      activity.pendings (waitingOn interface name waiting) := by
  cases activity with
  | replied reply => rfl
  | waiting _ p => exact waitingOn_cons_of_eq h p waiting

/-- Nothing that another interface does makes anything wait here. -/
lemma waitingOn_suspend_of_ne (h : interface key ≠ name) (activity : Activity Unit R)
    (waiting : List (K × Pending)) :
    waitingOn interface name ((activity.under key).suspend waiting) =
      waitingOn interface name waiting := by
  cases activity with
  | replied reply => rfl
  | waiting _ p => exact waitingOn_cons_of_ne h p waiting

end WaitingOn

/-! ## Steps -/

namespace World

/-- A step that a session takes on its world, in which no command is begun but an allowed one. Of
the allocations that wait, only the one begun last goes on. -/
inductive StepBy (w : World W C K R) (allowed : C → Prop) :
    W × List (K × Pending) → W × List (K × Pending) → Prop
  | setClock (time : ℕ) (x : W) (waiting : List (K × Pending)) :
      StepBy w allowed (x, waiting) (w.setClock time x, waiting)
  | submit {c : C} (h : allowed c) (x : W) (waiting : List (K × Pending)) :
      StepBy w allowed (x, waiting) ((w.submit c x).2, (w.submit c x).1.suspend waiting)
  | resume (key : K) (p : Pending) (busy : Bool) (x : W) (waiting : List (K × Pending)) :
      StepBy w allowed (x, (key, p) :: waiting)
        ((w.resume key p busy x).2, (w.resume key p busy x).1.suspend waiting)
  | expire (key : K) (p : Pending) (x : W) (waiting : List (K × Pending)) :
      StepBy w allowed (x, (key, p) :: waiting) ((w.expire key p x).2, waiting)
  | withdraw (key : K) (p : Pending) (x : W) (waiting : List (K × Pending)) :
      StepBy w allowed (x, (key, p) :: waiting) (w.withdraw key p x, waiting)

/-- If more commands are allowed, the step is still a step. -/
lemma StepBy.mono {w : World W C K R} {allowed allowed' : C → Prop}
    {x x' : W × List (K × Pending)} (h : w.StepBy allowed x x')
    (hle : ∀ c, allowed c → allowed' c) : w.StepBy allowed' x x' := by
  cases h with
  | setClock time x waiting => exact .setClock time x waiting
  | submit h x waiting => exact .submit (hle _ h) x waiting
  | resume key p busy x waiting => exact .resume key p busy x waiting
  | expire key p x waiting => exact .expire key p x waiting
  | withdraw key p x waiting => exact .withdraw key p x waiting

/-- A run of steps, whatever is begun in them. -/
abbrev Steps (w : World W C K R) : W × List (K × Pending) → W × List (K × Pending) → Prop :=
  Relation.ReflTransGen (w.StepBy fun _ => True)

end World

namespace Session

open Relation

variable {w : World W C K R} {allowed : C → Prop} {s s' s₁ : Session W C R}
  {waiting waiting' waiting₁ : List (K × Pending)}

/-- Whether the prober of a session has no commands carried out but allowed ones. -/
def Keeps (s : Session W C R) (allowed : C → Prop) : Prop :=
  ∀ prober, s.prober = some prober → ∀ probed ip, ∀ c ∈ (prober probed ip).meanwhile, allowed c

/-- What a part of a session does to it if no commands are begun but allowed ones: the prober is
still the same, and the world has gone through a run of steps that begin no others. -/
structure Leads (w : World W C K R) (allowed : C → Prop) (s : Session W C R)
    (waiting : List (K × Pending)) (s' : Session W C R) (waiting' : List (K × Pending)) : Prop where
  prober : s'.prober = s.prober
  steps : ReflTransGen (w.StepBy allowed) (s.world, waiting) (s'.world, waiting')

namespace Leads

lemma refl (w : World W C K R) (allowed : C → Prop) (s : Session W C R)
    (waiting : List (K × Pending)) : Leads w allowed s waiting s waiting :=
  ⟨rfl, .refl⟩

lemma trans (h : Leads w allowed s waiting s₁ waiting₁)
    (h' : Leads w allowed s₁ waiting₁ s' waiting') : Leads w allowed s waiting s' waiting' :=
  ⟨h'.prober.trans h.prober, h.steps.trans h'.steps⟩

/-- A step of the world. -/
lemma single {x : W} (h : w.StepBy allowed (s.world, waiting) (x, waiting')) :
    Leads w allowed s waiting (s.setWorld x) waiting' :=
  ⟨rfl, .single h⟩

lemma keeps (h : Leads w allowed s waiting s' waiting') (hs : s.Keeps allowed) :
    s'.Keeps allowed := by
  intro prober hprober
  exact hs prober (h.prober ▸ hprober)

end Leads

lemma carryOutAll_leads {ε : Type} {carryOut : C → Session W C R → Except ε R × Session W C R}
    (hcarryOut : ∀ {c s}, allowed c → s.Keeps allowed → ∀ waiting,
      Leads w allowed s waiting (carryOut c s).2 waiting)
    {cs : List C} (hcs : ∀ c ∈ cs, allowed c) (hs : s.Keeps allowed)
    {result : Except ε (List R)} (h : carryOutAll carryOut cs s = (result, s'))
    (waiting : List (K × Pending)) : Leads w allowed s waiting s' waiting := by
  induction cs generalizing s result with
  | nil =>
    obtain ⟨-, rfl⟩ := Prod.mk.inj h
    exact .refl w allowed s waiting
  | cons c rest ih =>
    obtain ⟨hc, hrest⟩ := List.forall_mem_cons.1 hcs
    have hfirst := hcarryOut hc hs waiting
    rw [carryOutAll] at h
    split at h
    · next heq =>
      -- the rest is not carried out any more
      obtain ⟨-, rfl⟩ := Prod.mk.inj h
      rwa [heq] at hfirst
    · next heq =>
      rw [heq] at hfirst
      split at h <;> next heq' =>
        obtain ⟨-, rfl⟩ := Prod.mk.inj h
        exact hfirst.trans (ih hrest (hfirst.keeps hs) heq')

lemma probe_leads {outer : List (Option ℕ)}
    {carryOut : (deadlines : List (Option ℕ)) → C → Session W C R →
      Except (Fin deadlines.length) R × Session W C R}
    (hcarryOut : ∀ {deadlines c s}, allowed c → s.Keeps allowed → ∀ waiting,
      Leads w allowed s waiting (carryOut deadlines c s).2 waiting)
    (p : Pending) (hs : s.Keeps allowed) (waiting : List (K × Pending)) :
    Leads w allowed s waiting (probe w outer carryOut p s).2 waiting := by
  unfold probe
  split
  · exact .refl w allowed s waiting
  · next prober hprober =>
    have hclock : ∀ time, Leads w allowed s waiting
        ((s.beginProbe p.ip).setWorld (w.setClock time s.world)) waiting :=
      fun time => ⟨rfl, .single (.setClock time s.world waiting)⟩
    simp only
    split
    · exact hclock _
    · -- the clock moves on before the commands of the prober
      have hmeanwhile := hs prober hprober s.probed p.ip
      split <;> next heq =>
        have hall := (hclock _).trans
          (carryOutAll_leads hcarryOut hmeanwhile ((hclock _).keeps hs) heq waiting)
        exact ⟨hall.prober, hall.steps⟩

/-- An allocation is followed by steps of its own and those of its probes. -/
lemma follow_leads {frames : ℕ}
    {probe : Pending → Session W C R → Except (Fin (frames + 1)) Bool × Session W C R}
    (hprobe : ∀ {s} p, s.Keeps allowed → ∀ waiting, Leads w allowed s waiting (probe p s).2 waiting)
    (probes : ℕ) (activity : Activity K R) (hs : s.Keeps allowed) (waiting : List (K × Pending)) :
    Leads w allowed s (activity.suspend waiting) (follow w probe probes activity s).2 waiting := by
  induction probes generalizing activity s with
  | zero =>
    cases activity with
    | replied reply => exact .refl w allowed s waiting
    | waiting key p => exact .single (.expire key p s.world waiting)
  | succ probes ih =>
    cases activity with
    | replied reply => exact .refl w allowed s waiting
    | waiting key p =>
      -- what the prober does leaves this allocation waiting, and it is the last one to have begun
      have hwait := hprobe p hs ((key, p) :: waiting)
      rw [follow]
      split
      · next busy s' heq =>
        rw [heq] at hwait
        have hresume := hwait.trans (.single (.resume key p busy s'.world waiting))
        exact hresume.trans (ih _ (hresume.keeps hs))
      · next s' heq =>
        rw [heq] at hwait
        exact hwait.trans (.single (.expire key p s'.world waiting))
      · next s' heq =>
        rw [heq] at hwait
        exact hwait.trans (.single (.withdraw key p s'.world waiting))

/-- A command that is replied to at once asks the prober nothing. -/
lemma carryOut_replied {c : C} {s : Session W C R} {reply : R} {x : W}
    (h : w.submit c s.world = (.replied reply, x)) (depth : ℕ) (outer : List (Option ℕ)) :
    carryOut w depth outer c s = (.ok reply, s.setWorld x) := by
  cases depth with
  | zero => simp only [carryOut, h, Allocation.maxProbes, follow]
  | succ depth => simp only [carryOut, h, Allocation.maxProbes, follow]

/-- Whatever an allowed command does, if the prober has only allowed ones carried out, is a run of
steps that begin no others, in which what has begun has ended. -/
theorem carryOut_leads {depth : ℕ} {outer : List (Option ℕ)} {c : C} (hc : allowed c)
    (hs : s.Keeps allowed) (waiting : List (K × Pending)) :
    Leads w allowed s waiting (carryOut w depth outer c s).2 waiting := by
  induction depth generalizing outer c s waiting with
  | zero =>
    have hsubmit : Leads w allowed s waiting (s.setWorld (w.submit c s.world).2)
        ((w.submit c s.world).1.suspend waiting) := .single (.submit hc s.world waiting)
    let free : Pending → Session W C R → Except (Fin (outer.length + 1)) Bool × Session W C R :=
      fun _ s => (.ok false, s)
    have hfree : ∀ {s} p, s.Keeps allowed → ∀ waiting,
        Leads w allowed s waiting (free p s).2 waiting :=
      fun _ _ waiting => .refl w allowed _ waiting
    exact hsubmit.trans (follow_leads hfree _ _ (hsubmit.keeps hs) waiting)
  | succ depth ih =>
    have hsubmit : Leads w allowed s waiting (s.setWorld (w.submit c s.world).2)
        ((w.submit c s.world).1.suspend waiting) := .single (.submit hc s.world waiting)
    have hprobe : ∀ {s : Session W C R} p, s.Keeps allowed → ∀ waiting,
        Leads w allowed s waiting (probe w outer (carryOut w depth) p s).2 waiting :=
      fun p => probe_leads ih p
    exact hsubmit.trans (follow_leads hprobe _ _ (hsubmit.keeps hs) waiting)

/-! ## All commands -/

lemma keeps_true (s : Session W C R) : s.Keeps fun _ => True :=
  fun _ _ _ _ _ _ => trivial

/-- Whatever a command does is a run of steps, in which what has begun has ended. -/
theorem carryOut_steps (w : World W C K R) (depth : ℕ) (outer : List (Option ℕ)) (c : C)
    (s : Session W C R) (waiting : List (K × Pending)) :
    w.Steps (s.world, waiting) ((carryOut w depth outer c s).2.world, waiting) :=
  (carryOut_leads trivial s.keeps_true waiting).steps

/-- So is whatever happens while a probe is under way. -/
lemma probe_steps (w : World W C K R) (depth : ℕ) (outer : List (Option ℕ)) (p : Pending)
    (s : Session W C R) (waiting : List (K × Pending)) :
    w.Steps (s.world, waiting) ((probe w outer (carryOut w depth) p s).2.world, waiting) :=
  (probe_leads carryOut_leads p s.keeps_true waiting).steps

end Session

end DhcpLeasing
