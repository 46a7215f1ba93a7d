import DhcpLeasing.Proofs.Interface.Admin
import DhcpLeasing.Proofs.Interface.Allocation

/-!
# Commands as changes of the tables

`Interface.Makes` says which change of a table a command other than an allocation makes, and
`scope?_submit_cases` that it does nothing else: whatever is to be shown of all commands needs to be
shown of these changes only. A command that is refused changes nothing, `submit_refused`.
-/

namespace DhcpLeasing.Interface

variable {i : Interface} {s : Scope} {f : Family} {l m : Lease} {ip : IpAddr} {c : TableChange}
  {P : TableChange → Prop}

/-- The change that a command makes, if it makes one. What an operator enters has been checked
first. -/
def Makes (i : Interface) (now : ℕ) : InterfaceCommand → TableChange → Prop
  | .release client ip, c => c = .remove ip client
  | .addLease l, c => ∃ m, i.normalizeLease l = .ok m ∧ c = .insert m
  | .editLease old new, c => ∃ m, i.normalizeLease new = .ok m ∧ c = .edit old m
  | .removeLease l, c => c = .remove l.ip l.hwAddr
  | .reset, c => c = .reset
  | .reap time, c => c = .reap (time.getD (.ofMillis now))
  | _, _ => False

/-- An operation on the table of an address leaves the other tables alone. -/
lemma scope?_changeTable_cases {change : LeaseTable → Except LeaseError Lease × LeaseTable}
    (hchange : ∀ t, (change t).2 = t ∨ ∃ c, P c ∧ (change t).2 = t.change c) (f : Family) :
    (i.changeTable ip change).2.scope? f = i.scope? f ∨
      ∃ s c, i.scope? f = some s ∧ P c ∧
        (i.changeTable ip change).2.scope? f = some (s.change c) := by
  unfold changeTable adminScope
  cases hs : i.scope? ip.family with
  | none => exact .inl rfl
  | some s =>
    simp only [scope?_setScope]
    split
    · next hf =>
      subst hf
      rcases hchange s.table with heq | ⟨c, hc, heq⟩
      · rw [heq, hs]
        exact .inl rfl
      · rw [heq]
        exact .inr ⟨s, c, hs, hc, rfl⟩
    · exact .inl rfl

/-- An operation that makes the same change of every table. -/
lemma scope?_mapScopes_cases (hc : P c) (i : Interface) (f : Family) :
    (i.mapScopes (·.change c)).scope? f = i.scope? f ∨
      ∃ s c', i.scope? f = some s ∧ P c' ∧
        (i.mapScopes (·.change c)).scope? f = some (s.change c') := by
  rw [scope?_mapScopes]
  cases hs : i.scope? f with
  | none => exact .inl rfl
  | some s => exact .inr ⟨s, c, rfl, hc, rfl⟩

/-- A command other than an allocation does nothing to a scope but make its change. -/
theorem scope?_submit_cases (i : Interface) (now : ℕ) {command : InterfaceCommand}
    (hcommand : ∀ r, command ≠ .allocate r) (f : Family) :
    (i.submit now command).2.scope? f = i.scope? f ∨
      ∃ s c, i.scope? f = some s ∧ i.Makes now command c ∧
        (i.submit now command).2.scope? f = some (s.change c) := by
  cases command with
  | allocate r => exact absurd rfl (hcommand r)
  | release client ip =>
    apply scope?_changeTable_cases
    intro t
    split
    · split
      · -- a static lease is not given back
        exact .inl rfl
      · exact .inr ⟨.remove ip client, rfl, rfl⟩
    · exact .inr ⟨.remove ip client, rfl, rfl⟩
  | addLease l =>
    simp only [submit, replyLease, addLease]
    cases hl : i.normalizeLease l with
    | error e => exact .inl rfl
    | ok m =>
      apply scope?_changeTable_cases
      intro t
      exact .inr ⟨.insert m, ⟨m, hl, rfl⟩, rfl⟩
  | editLease old new =>
    simp only [submit, replyLease, editLease]
    split
    · exact .inl rfl
    · cases hl : i.normalizeLease new with
      | error e => exact .inl rfl
      | ok m =>
        apply scope?_changeTable_cases
        intro t
        exact .inr ⟨.edit old m, ⟨m, hl, rfl⟩, rfl⟩
  | removeLease l =>
    apply scope?_changeTable_cases
    intro t
    exact .inr ⟨.remove l.ip l.hwAddr, rfl, rfl⟩
  | reset => exact scope?_mapScopes_cases (P := i.Makes now .reset) rfl i f
  | reap time => exact scope?_mapScopes_cases (P := i.Makes now (.reap time)) rfl i f
  | _ => exact .inl rfl

/-! ## Refused commands -/

lemma changeTable_of_error {change : LeaseTable → Except LeaseError Lease × LeaseTable}
    (h : ∀ {s}, i.scope? ip.family = some s → ∀ {e}, (change s.table).1 = .error e →
      (change s.table).2 = s.table) {e : LeaseError} (he : (i.changeTable ip change).1 = .error e) :
    (i.changeTable ip change).2 = i := by
  unfold changeTable adminScope at he ⊢
  cases hs : i.scope? ip.family with
  | none => rfl
  | some s =>
    rw [hs] at he
    simp only [h hs he]
    exact setScope_of_scope? hs

/-- A command that is refused changes nothing. -/
theorem submit_refused (h : i.Sound) {now : ℕ} {command : InterfaceCommand} {e : LeaseError}
    (he : (i.submit now command).1 = .replied (.lease (.error e))) :
    (i.submit now command).2 = i := by
  have hremove : ∀ {t : LeaseTable} {ip client e}, (t.remove ip client).1 = .error e →
      (t.remove ip client).2 = t := by
    intro t ip client e he
    rcases LeaseTable.remove_cases t ip client with ⟨e', heq⟩ | ⟨l, -, -, heq⟩
    · rw [heq]
    · simp [heq] at he
  cases command with
  | allocate r =>
    have ho := begin_outcome h now (r.at now)
    simp only [submit] at he ⊢
    rcases hbegin : i.begin now (r.at now) with ⟨progress, i'⟩
    rw [hbegin] at he ho
    cases progress with
    | probing p => simp [Progress.activity] at he
    | done result =>
      obtain rfl : result = .error e := by simpa [Progress.activity] using he
      exact ho.eq_of_error
  | release client ip =>
    simp only [submit, replyLease, Activity.replied.injEq, Reply.lease.injEq] at he ⊢
    apply changeTable_of_error _ he
    intro s hs e
    split
    · split
      · intro _
        rfl
      · exact hremove
    · exact hremove
  | addLease l =>
    simp only [submit, replyLease, Activity.replied.injEq, Reply.lease.injEq] at he ⊢
    unfold addLease at he ⊢
    cases hl : i.normalizeLease l with
    | error e' => rfl
    | ok m =>
      simp only [hl] at he
      apply changeTable_of_error _ he
      intro s hs e he
      rcases LeaseTable.insert_cases (h.scope hs).table m with ⟨e', heq⟩ | ⟨-, -, -, heq⟩
      · rw [heq]
      · simp [heq] at he
  | editLease old new =>
    simp only [submit, replyLease, Activity.replied.injEq, Reply.lease.injEq] at he ⊢
    unfold editLease at he ⊢
    split at he
    · next hfamily => rw [if_pos hfamily]
    · next hfamily =>
      rw [if_neg hfamily]
      cases hl : i.normalizeLease new with
      | error e' => rfl
      | ok m =>
        simp only [hl] at he
        apply changeTable_of_error _ he
        intro s hs e he
        rcases LeaseTable.edit_cases (h.scope hs).table old m with ⟨e', heq⟩ | ⟨l, -, -, -, -, heq⟩
        · rw [heq]
        · simp [heq] at he
  | removeLease l =>
    simp only [submit, replyLease, Activity.replied.injEq, Reply.lease.injEq] at he ⊢
    apply changeTable_of_error _ he
    intro s hs e
    exact hremove
  | reset => simp [submit] at he
  | reap time => simp [submit] at he
  | _ => rfl

end DhcpLeasing.Interface
