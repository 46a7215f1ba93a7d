import DhcpLeasing.Interface.Command
import DhcpLeasing.Proofs.Checks
import DhcpLeasing.Proofs.Interface.Basic

/-!
# Administration of a sound interface

Operators, clients that give a lease back and the reaper bring no lease that does not fit: what an
operator enters has passed the checks of `normalizeLease`, and the other operations bring none.
-/

namespace DhcpLeasing.Interface

variable {i : Interface} {s : Scope} {l m : Lease}

/-! ## Checked leases -/

lemma adminScope_eq_ok_iff {ip : IpAddr} :
    i.adminScope ip = .ok s ↔ i.scope? ip.family = some s := by
  unfold adminScope
  cases i.scope? ip.family <;> simp

lemma checkDynamic_eq_ok_iff :
    checkDynamic s l = .ok () ↔ s.pool.contains l.ip ∧ l.expiresAt.isSome := by
  unfold checkDynamic
  cases l.expiresAt <;> cases s.pool.contains l.ip <;>
    simp [bind_eq_ok_iff, pure_eq_ok_iff, throw_eq_ok_iff]

/-- What an operator enters fits the scope that its address belongs to. -/
lemma normalizeLease_eq_ok (h : i.Sound) (hl : i.normalizeLease l = .ok m) :
    m.ip = l.ip ∧ ∃ s, i.scope? l.ip.family = some s ∧ s.pool.Fits m := by
  simp only [normalizeLease, bind_eq_ok_iff, adminScope_eq_ok_iff, mapError_eq_ok_iff] at hl
  obtain ⟨s, hs, ⟨⟩, hclient, hostname, hhost, hl⟩ := hl
  rw [Lease.family, ← h.family hs] at hclient
  have hname := Hostname.validate_of_validate hhost
  split at hl
  · next hstatic =>
    simp only [bind_eq_ok_iff, mapError_eq_ok_iff, pure_eq_ok_iff] at hl
    obtain ⟨⟨⟩, hcheck, rfl⟩ := hl
    refine ⟨rfl, s, hs, hclient, hname, fun _ => ⟨hcheck, rfl⟩, ?_⟩
    intro hdynamic
    exact absurd (hstatic.symm.trans hdynamic) (by decide)
  · next hstatic =>
    simp only [bind_eq_ok_iff, mapError_eq_ok_iff, pure_eq_ok_iff] at hl
    obtain ⟨⟨⟩, hcheck, rfl⟩ := hl
    refine ⟨rfl, s, hs, hclient, hname, ?_, fun _ => checkDynamic_eq_ok_iff.1 hcheck⟩
    intro hstatic'
    exact absurd hstatic' hstatic

/-- What fits already is entered as it is. -/
lemma normalizeLease_of_fits (h : i.Sound) (hs : i.scope? l.ip.family = some s)
    (hfits : s.pool.Fits l) : i.normalizeLease l = .ok l := by
  have hclient : l.hwAddr.validateFor l.family = .ok () := by
    rw [Lease.family, ← h.family hs]
    exact hfits.client
  simp only [normalizeLease, bind_eq_ok_iff, adminScope_eq_ok_iff, mapError_eq_ok_iff]
  refine ⟨s, hs, (), hclient, l.hostname, hfits.hostname, ?_⟩
  cases hstatic : l.isStatic with
  | true =>
    obtain ⟨hcheck, hexpiry⟩ := hfits.static hstatic
    simp only [if_true, bind_eq_ok_iff, mapError_eq_ok_iff, pure_eq_ok_iff]
    exact ⟨(), hcheck, by rw [← hexpiry, ← hstatic]⟩
  | false =>
    simp only [Bool.false_eq_true, if_false, bind_eq_ok_iff, mapError_eq_ok_iff, pure_eq_ok_iff]
    exact ⟨(), checkDynamic_eq_ok_iff.2 (hfits.dynamic hstatic), by rw [← hstatic]⟩

/-! ## Operations -/

/-- An operation on the table of an address amends the interface if it amends that table. -/
lemma changeTable_amended {ip : IpAddr} {change : LeaseTable → Except LeaseError Lease × LeaseTable}
    (hchange : ∀ {s}, i.scope? ip.family = some s → (change s.table).2 = s.table ∨
      ∃ c : TableChange, c.Fits s.pool ∧ (change s.table).2 = s.table.change c) :
    Amended i (i.changeTable ip change).2 := by
  unfold changeTable adminScope
  cases hs : i.scope? ip.family with
  | none => exact .refl i
  | some s =>
    rcases hchange hs with heq | ⟨c, hc, heq⟩
    · simp only [heq]
      rw [setScope_of_scope? hs]
      exact .refl i
    · simp only [heq]
      exact .setScope hs hc

lemma addLease_amended (h : i.Sound) (l : Lease) : Amended i (i.addLease l).2 := by
  unfold addLease
  cases hl : i.normalizeLease l with
  | error e => exact .refl i
  | ok m =>
    obtain ⟨hip, s, hs, hfits⟩ := normalizeLease_eq_ok h hl
    rw [← hip] at hs
    apply changeTable_amended
    intro s' hs'
    obtain rfl := Option.some.inj (hs.symm.trans hs')
    exact .inr ⟨.insert m, hfits, rfl⟩

lemma editLease_amended (h : i.Sound) (old new : Lease) : Amended i (i.editLease old new).2 := by
  unfold editLease
  split
  · exact .refl i
  · cases hl : i.normalizeLease new with
    | error e => exact .refl i
    | ok m =>
      obtain ⟨hip, s, hs, hfits⟩ := normalizeLease_eq_ok h hl
      rw [← hip] at hs
      apply changeTable_amended
      intro s' hs'
      obtain rfl := Option.some.inj (hs.symm.trans hs')
      exact .inr ⟨.edit old m, hfits, rfl⟩

lemma removeLease_amended (i : Interface) (l : Lease) : Amended i (i.removeLease l).2 :=
  changeTable_amended fun _ => .inr ⟨.remove l.ip l.hwAddr, trivial, rfl⟩

lemma release_amended (i : Interface) (client : HwAddr) (ip : IpAddr) :
    Amended i (i.release client ip).2 := by
  apply changeTable_amended
  intro s _
  split
  · split
    · -- a static lease is not given back
      exact .inl rfl
    · exact .inr ⟨.remove ip client, trivial, rfl⟩
  · exact .inr ⟨.remove ip client, trivial, rfl⟩

lemma reset_amended (i : Interface) : Amended i i.reset.2 :=
  .mapScopes (c := .reset) i fun _ => trivial

/-- Reaping changes all scopes in the same way. -/
lemma reapExpired_eq_mapScopes (i : Interface) (now : Timestamp) :
    (i.reapExpired now).2 = i.mapScopes (·.change (.reap now)) := rfl

lemma reapExpired_amended (i : Interface) (now : Timestamp) : Amended i (i.reapExpired now).2 :=
  .mapScopes (c := .reap now) i fun _ => trivial

/-- No command but an allocation brings a lease that does not fit, or touches a reservation. -/
lemma submit_amended (h : i.Sound) (now : ℕ) {command : InterfaceCommand}
    (hcommand : ∀ r, command ≠ .allocate r) : Amended i (i.submit now command).2 := by
  cases command with
  | allocate r => exact absurd rfl (hcommand r)
  | release client ip => exact release_amended i client ip
  | addLease l => exact addLease_amended h l
  | editLease old new => exact editLease_amended h old new
  | removeLease l => exact removeLease_amended i l
  | reset => exact reset_amended i
  | reap time => exact reapExpired_amended i _
  | _ => exact .refl i

/-- Only an allocation waits. -/
lemma submit_replied (i : Interface) (now : ℕ) {command : InterfaceCommand}
    (hcommand : ∀ r, command ≠ .allocate r) :
    ∃ reply, (i.submit now command).1 = .replied reply := by
  cases command with
  | allocate r => exact absurd rfl (hcommand r)
  | _ => exact ⟨_, rfl⟩

end DhcpLeasing.Interface
