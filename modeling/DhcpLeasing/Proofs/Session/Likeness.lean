import DhcpLeasing.Proofs.Session

/-!
# Sessions on worlds that are alike

Two worlds may differ in something that commands put into their replies at most, `World.Ignores`.
Then sessions go on alike on both, since a prober is not told any replies: `Session.carryOut_alike`.
A command that begins with the same activity on both even comes to the same result,
`Session.carryOut_eq_of_submit`.
-/

namespace DhcpLeasing

variable {W C K R : Type}

/-- Whether the steps of two commands have come to the same, apart from what they reply. -/
inductive Activity.Alike : Activity K R → Activity K R → Prop
  | replied (reply reply' : R) : Alike (.replied reply) (.replied reply')
  | waiting (key : K) (p : Pending) : Alike (.waiting key p) (.waiting key p)

lemma Activity.Alike.of_eq {activity activity' : Activity K R} (h : activity = activity') :
    activity.Alike activity' := by
  subst h
  cases activity with
  | replied reply => exact .replied reply reply
  | waiting key p => exact .waiting key p

/-- What it means that worlds which are alike in some sense stay so, and that the steps of an
allocation do not look at what makes a difference between them. -/
structure World.Ignores (w : World W C K R) (rel : W → W → Prop) : Prop where
  clock {x y : W} (h : rel x y) : w.clock x = w.clock y
  setClock {x y : W} (time : ℕ) (h : rel x y) : rel (w.setClock time x) (w.setClock time y)
  submit {x y : W} (c : C) (h : rel x y) :
    (w.submit c x).1.Alike (w.submit c y).1 ∧ rel (w.submit c x).2 (w.submit c y).2
  resume {x y : W} (key : K) (p : Pending) (busy : Bool) (h : rel x y) :
    (w.resume key p busy x).1 = (w.resume key p busy y).1 ∧
      rel (w.resume key p busy x).2 (w.resume key p busy y).2
  expire {x y : W} (key : K) (p : Pending) (h : rel x y) :
    (w.expire key p x).1 = (w.expire key p y).1 ∧
      rel (w.expire key p x).2 (w.expire key p y).2
  withdraw {x y : W} (key : K) (p : Pending) (h : rel x y) :
    rel (w.withdraw key p x) (w.withdraw key p y)

namespace Session

variable {w : World W C K R} {rel : W → W → Prop} {s t : Session W C R}

/-- Whether two sessions will go on alike. Nobody looks at what has been recorded. -/
structure Alike (rel : W → W → Prop) (s t : Session W C R) : Prop where
  world : rel s.world t.world
  prober : s.prober = t.prober
  probed : s.probed = t.probed

lemma Alike.setWorld (h : Alike rel s t) {x y : W} (hworld : rel x y) :
    Alike rel (s.setWorld x) (t.setWorld y) :=
  ⟨hworld, h.prober, h.probed⟩

/-- Whether what comes of two sessions is the same, apart from what is replied. -/
inductive EndsAlike {ε A : Type} (rel : W → W → Prop) :
    Except ε A × Session W C R → Except ε A × Session W C R → Prop
  | ok (a a' : A) {s t : Session W C R} (h : Alike rel s t) : EndsAlike rel (.ok a, s) (.ok a', t)
  | error (e : ε) {s t : Session W C R} (h : Alike rel s t) :
      EndsAlike rel (.error e, s) (.error e, t)

/-- Whether what comes of two sessions is the same. -/
structure EndsEqual {A : Type} (rel : W → W → Prop) (r r' : A × Session W C R) : Prop where
  result : r.1 = r'.1
  session : Alike rel r.2 r'.2

lemma EndsEqual.alike {ε A : Type} {r r' : Except ε A × Session W C R} (h : EndsEqual rel r r') :
    EndsAlike rel r r' := by
  obtain ⟨result, s⟩ := r
  obtain ⟨result', t⟩ := r'
  obtain rfl : result = result' := h.result
  cases result with
  | ok a => exact .ok a a h.session
  | error e => exact .error e h.session

lemma carryOutAll_alike {ε : Type} {carryOut : C → Session W C R → Except ε R × Session W C R}
    (hcarryOut : ∀ c {s t}, Alike rel s t → EndsAlike rel (carryOut c s) (carryOut c t))
    (cs : List C) (h : Alike rel s t) :
    EndsAlike rel (carryOutAll carryOut cs s) (carryOutAll carryOut cs t) := by
  induction cs generalizing s t with
  | nil => exact .ok [] [] h
  | cons c rest ih =>
    have hfirst := hcarryOut c h
    simp only [carryOutAll]
    generalize carryOut c s = r at hfirst ⊢
    generalize carryOut c t = r' at hfirst ⊢
    cases hfirst with
    | error e h => exact .error e h
    | @ok reply reply' s₁ t₁ h =>
      have hrest := ih h
      simp only
      generalize carryOutAll carryOut rest s₁ = r at hrest ⊢
      generalize carryOutAll carryOut rest t₁ = r' at hrest ⊢
      cases hrest with
      | error e h => exact .error e h
      | ok replies replies' h => exact .ok _ _ h

/-- A probe is answered in the same way in both sessions, since a prober is not told any replies. -/
lemma probe_alike (hw : w.Ignores rel) {outer : List (Option ℕ)}
    {carryOut : (deadlines : List (Option ℕ)) → C → Session W C R →
      Except (Fin deadlines.length) R × Session W C R}
    (hcarryOut : ∀ deadlines c {s t}, Alike rel s t →
      EndsAlike rel (carryOut deadlines c s) (carryOut deadlines c t))
    (p : Pending) (h : Alike rel s t) :
    EndsEqual rel (probe w outer carryOut p s) (probe w outer carryOut p t) := by
  have hclock : ∀ time, Alike rel
      ((s.beginProbe p.ip).setWorld (w.setClock time (s.beginProbe p.ip).world))
      ((t.beginProbe p.ip).setWorld (w.setClock time (t.beginProbe p.ip).world)) :=
    fun time => ⟨hw.setClock time h.world, h.prober, congrArg (p.ip :: ·) h.probed⟩
  have hnow : w.clock (s.beginProbe p.ip).world = w.clock (t.beginProbe p.ip).world :=
    hw.clock h.world
  unfold probe
  rw [← h.prober]
  cases hprober : s.prober with
  | none => exact ⟨rfl, h⟩
  | some prober =>
    simp only [← h.probed, ← hnow]
    generalize w.clock (s.beginProbe p.ip).world = now
    generalize min (prober s.probed p.ip).delay p.claim.probeTimeout = wait
    cases cutShort now wait (p.claim.request.deadline :: outer) with
    | some cut => exact ⟨rfl, hclock cut.2⟩
    | none =>
      have hall := carryOutAll_alike (hcarryOut (p.claim.request.deadline :: outer))
        (prober s.probed p.ip).meanwhile (hclock (now + wait))
      simp only
      generalize carryOutAll (carryOut (p.claim.request.deadline :: outer))
        (prober s.probed p.ip).meanwhile _ = r at hall ⊢
      generalize carryOutAll (carryOut (p.claim.request.deadline :: outer))
        (prober s.probed p.ip).meanwhile _ = r' at hall ⊢
      cases hall with
      | error e h => exact ⟨rfl, h⟩
      | ok replies replies' h => exact ⟨rfl, h.world, h.prober, h.probed⟩

lemma follow_alike (hw : w.Ignores rel) {frames : ℕ}
    {probe : Pending → Session W C R → Except (Fin (frames + 1)) Bool × Session W C R}
    (hprobe : ∀ p {s t}, Alike rel s t → EndsEqual rel (probe p s) (probe p t))
    (probes : ℕ) (activity : Activity K R) (h : Alike rel s t) :
    EndsEqual rel (follow w probe probes activity s) (follow w probe probes activity t) := by
  induction probes generalizing activity s t with
  | zero =>
    cases activity with
    | replied reply => exact ⟨rfl, h⟩
    | waiting key p =>
      obtain ⟨hreply, hworld⟩ := hw.expire key p h.world
      exact ⟨congrArg Except.ok hreply, h.setWorld hworld⟩
  | succ probes ih =>
    cases activity with
    | replied reply => exact ⟨rfl, h⟩
    | waiting key p =>
      have hprobed := hprobe p h
      rcases hs : probe p s with ⟨result, s₁⟩
      rcases ht : probe p t with ⟨result', t₁⟩
      rw [hs, ht] at hprobed
      obtain ⟨rfl, h₁⟩ : result = result' ∧ Alike rel s₁ t₁ := ⟨hprobed.result, hprobed.session⟩
      simp only [follow, hs, ht]
      rcases result with ⟨j, hj⟩ | busy
      · cases j with
        | zero =>
          obtain ⟨hreply, hworld⟩ := hw.expire key p h₁.world
          exact ⟨congrArg Except.ok hreply, h₁.setWorld hworld⟩
        | succ j => exact ⟨rfl, h₁.setWorld (hw.withdraw key p h₁.world)⟩
      · obtain ⟨hactivity, hworld⟩ := hw.resume key p busy h₁.world
        simp only [hactivity]
        exact ih _ (h₁.setWorld hworld)

/-- A command that begins in the same way in both sessions comes to the same. -/
lemma carryOut_alike_of_submit (hw : w.Ignores rel) {depth : ℕ} {outer : List (Option ℕ)} {c : C}
    (hdeeper : ∀ d < depth, ∀ deadlines c {s t}, Alike rel s t →
      EndsAlike rel (carryOut w d deadlines c s) (carryOut w d deadlines c t))
    (h : Alike rel s t) (hsubmit : (w.submit c s.world).1 = (w.submit c t.world).1) :
    EndsEqual rel (carryOut w depth outer c s) (carryOut w depth outer c t) := by
  have hbegun := h.setWorld (hw.submit c h.world).2
  cases depth with
  | zero =>
    simp only [carryOut, hsubmit]
    exact follow_alike hw (fun _ _ _ h => ⟨rfl, h⟩) _ _ hbegun
  | succ depth =>
    simp only [carryOut, hsubmit]
    exact follow_alike hw (fun p _ _ h => probe_alike hw (hdeeper depth depth.lt_succ_self) p h)
      _ _ hbegun

/-- Sessions on worlds that are alike go on alike. -/
theorem carryOut_alike (hw : w.Ignores rel) (depth : ℕ) (outer : List (Option ℕ)) (c : C)
    (h : Alike rel s t) :
    EndsAlike rel (carryOut w depth outer c s) (carryOut w depth outer c t) := by
  induction depth using Nat.strongRecOn generalizing outer c s t with
  | ind depth ih =>
    obtain ⟨hactivity, hworld⟩ := hw.submit c h.world
    rcases hs : w.submit c s.world with ⟨activity, x⟩
    rcases ht : w.submit c t.world with ⟨activity', y⟩
    rw [hs, ht] at hactivity hworld
    cases hactivity with
    | replied reply reply' =>
      rw [carryOut_replied hs, carryOut_replied ht]
      exact .ok reply reply' (h.setWorld hworld)
    | waiting key p =>
      have hsubmit : (w.submit c s.world).1 = (w.submit c t.world).1 := by rw [hs, ht]
      have hdeeper : ∀ d < depth, ∀ deadlines c {s t : Session W C R}, Alike rel s t →
          EndsAlike rel (carryOut w d deadlines c s) (carryOut w d deadlines c t) :=
        fun d hd deadlines c _ _ h => ih d hd deadlines c h
      exact (carryOut_alike_of_submit hw hdeeper h hsubmit).alike

/-- A command that begins in the same way on worlds that are alike comes to the same. -/
theorem carryOut_eq_of_submit (hw : w.Ignores rel) (depth : ℕ) (outer : List (Option ℕ)) {c : C}
    (h : Alike rel s t) (hsubmit : (w.submit c s.world).1 = (w.submit c t.world).1) :
    EndsEqual rel (carryOut w depth outer c s) (carryOut w depth outer c t) :=
  carryOut_alike_of_submit hw (fun d _ deadlines c _ _ h => carryOut_alike hw d deadlines c h) h
    hsubmit

end Session

end DhcpLeasing
