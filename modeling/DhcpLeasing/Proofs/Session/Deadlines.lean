import DhcpLeasing.Session
import Mathlib.Tactic.Common

/-!
# Deadlines of sessions

Nothing but a deadline cuts a command off, and not before its time: `Session.carryOut_orderly`. So a
command whose client waits as long as it takes, inside no other command, gets its reply.
-/

namespace DhcpLeasing

variable {W C K R : Type}

/-- A world whose clock can be set, and goes on when an allocation is withdrawn. -/
structure World.Timed (w : World W C K R) : Prop where
  clock_setClock : ∀ time x, w.clock (w.setClock time x) = time
  clock_withdraw : ∀ key p x, w.clock (w.withdraw key p x) = w.clock x

namespace Session

variable {w : World W C K R}

section FirstPassed

variable {now wake first time : ℕ} {outer : List (Option ℕ)}

lemma firstPassed_cons_none :
    firstPassed now wake (none :: outer) =
      (firstPassed now wake outer).map fun r => (r.1.succ, r.2) := rfl

lemma firstPassed_cons_of_not_lt (h : ¬ first < wake) :
    firstPassed now wake (some first :: outer) =
      (firstPassed now wake outer).map fun r => (r.1.succ, r.2) :=
  if_neg h

lemma firstPassed_cons_of_lt (now : ℕ) (outer : List (Option ℕ)) (h : first < wake) :
    firstPassed now wake (some first :: outer) = some (⟨0, Nat.succ_pos _⟩, max now first) ∨
      firstPassed now wake (some first :: outer) =
        (firstPassed now wake outer).map fun r => (r.1.succ, r.2) := by
  cases hlater : firstPassed now wake outer with
  | none =>
    refine .inl ((if_pos h).trans ?_)
    rw [hlater]
    rfl
  | some r =>
    by_cases hr : r.2 < max now first
    · refine .inr ((if_pos h).trans ?_)
      rw [hlater]
      exact if_pos hr
    · refine .inl ((if_pos h).trans ?_)
      rw [hlater]
      exact if_neg hr

/-- What ends a wait is a deadline, at its time or at once if it has passed already. -/
lemma firstPassed_eq_some {deadlines : List (Option ℕ)} {i : Fin deadlines.length}
    (h : firstPassed now wake deadlines = some (i, time)) :
    ∃ deadline, deadlines[i] = some deadline ∧ time = max now deadline := by
  induction deadlines generalizing time with
  | nil => exact i.elim0
  | cons deadline outer ih =>
    have hlater : (firstPassed now wake outer).map (fun r => (r.1.succ, r.2)) = some (i, time) →
        ∃ d, (deadline :: outer)[i] = some d ∧ time = max now d := by
      intro hmap
      obtain ⟨⟨j, time'⟩, hj, heq⟩ := Option.map_eq_some_iff.1 hmap
      obtain ⟨rfl, rfl⟩ := Prod.mk.inj heq
      exact ih hj
    cases deadline with
    | none => exact hlater (firstPassed_cons_none.symm.trans h)
    | some first =>
      by_cases hfirst : first < wake
      · rcases firstPassed_cons_of_lt now outer hfirst with heq | heq
        · obtain ⟨rfl, rfl⟩ := Prod.mk.inj (Option.some.inj (heq.symm.trans h))
          exact ⟨first, rfl, rfl⟩
        · exact hlater (heq.symm.trans h)
      · exact hlater ((firstPassed_cons_of_not_lt hfirst).symm.trans h)

end FirstPassed

/-- What every part of a session keeps to: it stays with the prober, and is cut off only where there
is a deadline that has passed. -/
structure Orderly {α : Type} (w : World W C K R) (s : Session W C R) (deadlines : List (Option ℕ))
    (result : Except (Fin deadlines.length) α) (s' : Session W C R) : Prop where
  prober : s'.prober = s.prober
  cut : ∀ {i}, result = .error i →
    ∃ deadline, deadlines[i] = some deadline ∧ deadline ≤ w.clock s'.world

section Orderly

variable {deadlines outer : List (Option ℕ)} {s s' : Session W C R}

lemma carryOutAll_orderly
    {carryOut : C → Session W C R → Except (Fin deadlines.length) R × Session W C R}
    (hcarryOut : ∀ {c s r s'}, carryOut c s = (r, s') → Orderly w s deadlines r s') {cs : List C}
    {result : Except (Fin deadlines.length) (List R)}
    (h : carryOutAll carryOut cs s = (result, s')) : Orderly w s deadlines result s' := by
  induction cs generalizing s result with
  | nil =>
    obtain ⟨rfl, rfl⟩ := Prod.mk.inj h
    exact ⟨rfl, by simp⟩
  | cons c rest ih =>
    rw [carryOutAll] at h
    split at h
    · next heq =>
      obtain ⟨rfl, rfl⟩ := Prod.mk.inj h
      have hfirst := hcarryOut heq
      refine ⟨hfirst.prober, ?_⟩
      intro j hj
      obtain rfl := Except.error.inj hj
      exact hfirst.cut rfl
    · next heq =>
      have hfirst := hcarryOut heq
      split at h
      · next heq' =>
        obtain ⟨rfl, rfl⟩ := Prod.mk.inj h
        have hrest := ih heq'
        refine ⟨hrest.prober.trans hfirst.prober, ?_⟩
        intro j hj
        obtain rfl := Except.error.inj hj
        exact hrest.cut rfl
      · next heq' =>
        obtain ⟨rfl, rfl⟩ := Prod.mk.inj h
        exact ⟨(ih heq').prober.trans hfirst.prober, by simp⟩

variable (htimed : w.Timed)

include htimed

lemma probe_orderly
    {carryOut : (deadlines : List (Option ℕ)) → C → Session W C R →
      Except (Fin deadlines.length) R × Session W C R}
    (hcarryOut : ∀ {deadlines c s r s'}, carryOut deadlines c s = (r, s') →
      Orderly w s deadlines r s')
    {p : Pending} {result : Except (Fin (outer.length + 1)) Bool}
    (h : probe w outer carryOut p s = (result, s')) :
    Orderly w s (p.claim.request.deadline :: outer) result s' := by
  unfold probe at h
  split at h
  · obtain ⟨rfl, rfl⟩ := Prod.mk.inj h
    exact ⟨rfl, by simp⟩
  · simp only at h
    split at h
    · next time hcut =>
      obtain ⟨rfl, rfl⟩ := Prod.mk.inj h
      refine ⟨rfl, ?_⟩
      intro j hj
      obtain rfl := Except.error.inj hj
      unfold cutShort at hcut
      split at hcut
      · simp at hcut
      · -- the clock is set to the time at which the deadline takes effect
        obtain ⟨deadline, hdeadline, rfl⟩ := firstPassed_eq_some hcut
        refine ⟨deadline, hdeadline, ?_⟩
        simp only [setWorld, htimed.clock_setClock]
        exact Nat.le_max_right _ _
    · split at h
      · next heq =>
        obtain ⟨rfl, rfl⟩ := Prod.mk.inj h
        have hall := carryOutAll_orderly hcarryOut heq
        refine ⟨hall.prober, ?_⟩
        intro j hj
        obtain rfl := Except.error.inj hj
        exact hall.cut rfl
      · next heq =>
        obtain ⟨rfl, rfl⟩ := Prod.mk.inj h
        exact ⟨(carryOutAll_orderly hcarryOut heq).prober, by simp⟩

lemma follow_orderly
    {probe : Pending → Session W C R → Except (Fin (outer.length + 1)) Bool × Session W C R}
    (hprobe : ∀ {p s r s'}, probe p s = (r, s') →
      Orderly w s (p.claim.request.deadline :: outer) r s')
    {probes : ℕ} {activity : Activity K R} {result : Except (Fin outer.length) R}
    (h : follow w probe probes activity s = (result, s')) : Orderly w s outer result s' := by
  induction probes generalizing activity s with
  | zero =>
    cases activity with
    | replied reply =>
      obtain ⟨rfl, rfl⟩ := Prod.mk.inj h
      exact ⟨rfl, by simp⟩
    | waiting key p =>
      obtain ⟨rfl, rfl⟩ := Prod.mk.inj h
      exact ⟨rfl, by simp⟩
  | succ probes ih =>
    cases activity with
    | replied reply =>
      obtain ⟨rfl, rfl⟩ := Prod.mk.inj h
      exact ⟨rfl, by simp⟩
    | waiting key p =>
      rw [follow] at h
      split at h
      · next heq =>
        have hnext := ih h
        exact ⟨hnext.prober.trans (hprobe heq).prober, hnext.cut⟩
      · next heq =>
        obtain ⟨rfl, rfl⟩ := Prod.mk.inj h
        exact ⟨(hprobe heq).prober, by simp⟩
      · next heq =>
        obtain ⟨rfl, rfl⟩ := Prod.mk.inj h
        refine ⟨(hprobe heq).prober, ?_⟩
        intro j hj
        obtain rfl := Except.error.inj hj
        obtain ⟨deadline, hdeadline, hpassed⟩ := (hprobe heq).cut rfl
        exact ⟨deadline, hdeadline, by rwa [setWorld, htimed.clock_withdraw]⟩

theorem carryOut_orderly {depth : ℕ} {c : C} {result : Except (Fin outer.length) R}
    (h : carryOut w depth outer c s = (result, s')) : Orderly w s outer result s' := by
  induction depth generalizing outer c s result s' with
  | zero =>
    obtain ⟨hprober, hcut⟩ : Orderly w (s.setWorld (w.submit c s.world).2) outer result s' := by
      refine follow_orderly htimed ?_ h
      intro p s r s' hp
      obtain ⟨rfl, rfl⟩ := Prod.mk.inj hp
      exact ⟨rfl, by simp⟩
    exact ⟨hprober, hcut⟩
  | succ depth ih =>
    obtain ⟨hprober, hcut⟩ : Orderly w (s.setWorld (w.submit c s.world).2) outer result s' :=
      follow_orderly htimed (probe_orderly htimed ih) h
    exact ⟨hprober, hcut⟩

end Orderly

end Session

end DhcpLeasing
