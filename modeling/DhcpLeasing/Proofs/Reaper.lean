import DhcpLeasing.Fleet
import DhcpLeasing.Proofs.Desk
import DhcpLeasing.Proofs.LeaseTable.Reaping

/-!
# Passes of the reaper

A pass goes over the scopes of all interfaces. What it does to each of them is what reaping does to
its table, and nothing else:

* `Scope.Swept` and `Interface.Swept` say what a scope and an interface are like after a pass;
* `Reaper.removed_pass` and `Reaper.leases_pass`: over all interfaces, the leases that have expired
  are counted and all others are left;
* `Reaper.pass_pass`: two passes, in any order, are one pass at the later time, and together they
  count as many leases;
* `Reaper.passes_exact`: all of this holds of any interfaces, whatever has happened to them.
-/

namespace DhcpLeasing

/-- An interface that can come about: it was set up, and then anything has happened to it. Some
allocations may be under way. -/
def Interface.Reachable (i : Interface) : Prop :=
  ∃ name c probeTimeout waiting, Desk.Reachable (.ofConfig name c probeTimeout) ⟨i, waiting⟩

lemma Interface.Reachable.sound {i : Interface} (h : i.Reachable) : i.Sound := by
  obtain ⟨name, c, probeTimeout, waiting, hd⟩ := h
  exact (Desk.Reachable.sound hd).1.interface

/-! ## What a pass does -/

/-- What a pass makes of a scope. The keys of the leases that are gone are free. -/
structure Scope.Swept (time : Timestamp) (s s' : Scope) : Prop where
  pool_eq : s'.pool = s.pool
  leaseDuration_eq : s'.leaseDuration = s.leaseDuration
  family_eq : s'.table.family = s.table.family
  reserved_eq : s'.table.reserved = s.table.reserved
  removed : (s.table.reapExpired time).1 = s.table.leases.filter (·.Lapsed time)
  ascending : (s.table.reapExpired time).1.Pairwise fun l m => compare l.ip m.ip = .lt
  left : s'.table.leases = s.table.leases.filter (¬ ·.Lapsed time)
  vacated : ∀ {l}, l ∈ s.table.leases → l.Lapsed time →
    s'.table.lookup l.ip = none ∧ s'.table.lookupByHw l.hwAddr = none ∧
      s'.table.lookupByHostname l.hostname = none
  /-- A new lease is accepted if none of its keys is found. -/
  accepts : ∀ {m : Lease}, m.ip.family = s.table.family → s'.table.lookup m.ip = none →
    s'.table.lookupByHw m.hwAddr = none → s'.table.lookupByHostname m.hostname = none →
      (s'.table.insert m).1 = .ok m ∧ (s'.table.commit m).1 = .ok m

/-- What a pass makes of an interface. -/
structure Interface.Swept (time : Timestamp) (i i' : Interface) : Prop where
  name_eq : i'.name = i.name
  probeTimeout_eq : i'.probeTimeout = i.probeTimeout
  scope : ∀ f, Option.Rel (Scope.Swept time) (i.scope? f) (i'.scope? f)

lemma Scope.Sound.swept {s : Scope} (h : s.Sound) (time : Timestamp) :
    s.Swept time (s.change (.reap time)) where
  pool_eq := rfl
  leaseDuration_eq := rfl
  family_eq := LeaseTable.family_reapExpired s.table time
  reserved_eq := LeaseTable.reserved_reapExpired s.table time
  removed := LeaseTable.removed_reapExpired s.table time
  ascending := h.table.leases_ascending.sublist List.filter_sublist
  left := h.table.leases_reapExpired time
  vacated := h.table.lookups_reapExpired
  accepts hfamily hip hhw hhost := by
    refine (h.table.reapExpired time).accepts_of_lookups ?_ ⟨hip, hhw, hhost⟩
    rwa [LeaseTable.family_reapExpired]

namespace Interface

variable {i : Interface} {time : Timestamp}

lemma Sound.swept (h : i.Sound) (time : Timestamp) : i.Swept time (i.reapExpired time).2 := by
  refine ⟨rfl, rfl, ?_⟩
  intro f
  rw [reapExpired_eq_mapScopes, scope?_mapScopes]
  cases hs : i.scope? f with
  | none => exact .none
  | some s => exact .some ((h.scope hs).swept time)

/-- Given are the leases of all scopes that have expired. -/
lemma removed_reapExpired (i : Interface) (time : Timestamp) :
    (i.reapExpired time).1 = i.leases.filter (·.Lapsed time) := by
  rw [Interface.reapExpired, leases, List.filter_flatMap]
  simp only [LeaseTable.removed_reapExpired]

/-- All other leases are left. -/
lemma Sound.leases_reapExpired (h : i.Sound) (time : Timestamp) :
    (i.reapExpired time).2.leases = i.leases.filter (¬ ·.Lapsed time) := by
  have hscope : ∀ f, ((i.reapExpired time).2.scope? f).toList.flatMap (·.table.leases) =
      ((i.scope? f).toList.flatMap (·.table.leases)).filter (¬ ·.Lapsed time) := by
    intro f
    rw [reapExpired_eq_mapScopes, scope?_mapScopes]
    cases hs : i.scope? f with
    | none => rfl
    | some s =>
      have hleft := (h.scope hs).table.leases_reapExpired time
      simpa [LeaseTable.change] using hleft
  rw [leases_eq, leases_eq, hscope, hscope, List.filter_append]

lemma Sound.reapExpired_reapExpired (h : i.Sound) (t₁ t₂ : Timestamp) :
    ((i.reapExpired t₁).2.reapExpired t₂).2 = (i.reapExpired (max t₁ t₂)).2 := by
  refine ext_scope? rfl rfl ?_
  intro f
  simp only [reapExpired_eq_mapScopes, scope?_mapScopes]
  cases hs : i.scope? f with
  | none => rfl
  | some s =>
    have htable := (h.scope hs).table.reapExpired_reapExpired t₁ t₂
    simp only [Option.map_some, Scope.change, LeaseTable.change, htable]

end Interface

/-! ## Over all interfaces -/

namespace Reaper

variable {interfaces : List Interface}

/-- A pass counts the leases that have expired. -/
lemma removed_pass (interfaces : List Interface) (time : Timestamp) :
    (pass time interfaces).1 =
      ((interfaces.flatMap Interface.leases).filter (·.Lapsed time)).length := by
  rw [pass, List.filter_flatMap]
  simp only [Interface.removed_reapExpired]

/-- A pass leaves all other leases. -/
lemma leases_pass (h : ∀ i ∈ interfaces, i.Sound) (time : Timestamp) :
    (pass time interfaces).2.flatMap Interface.leases =
      (interfaces.flatMap Interface.leases).filter (¬ ·.Lapsed time) := by
  rw [pass, List.filter_flatMap, List.flatMap_map]
  apply List.flatMap_congr
  intro i hi
  exact (h i hi).leases_reapExpired time

lemma swept_pass (h : ∀ i ∈ interfaces, i.Sound) (time : Timestamp) :
    List.Forall₂ (Interface.Swept time) interfaces (pass time interfaces).2 := by
  rw [pass, List.forall₂_map_right_iff, List.forall₂_same]
  intro i hi
  exact (h i hi).swept time

/-- Two passes leave what one pass at the later time leaves. -/
lemma pass_pass (h : ∀ i ∈ interfaces, i.Sound) (t₁ t₂ : Timestamp) :
    (pass t₂ (pass t₁ interfaces).2).2 = (pass (max t₁ t₂) interfaces).2 := by
  rw [pass, pass, pass, List.map_map]
  apply List.map_congr_left
  intro i hi
  exact (h i hi).reapExpired_reapExpired t₁ t₂

/-- What a list has of one kind, and then what the rest of it has of another one, is what it has of
both. -/
lemma length_filter_add {α : Type} (p q : α → Prop) [DecidablePred p] [DecidablePred q]
    (l : List α) : (l.filter p).length + ((l.filter (¬ p ·)).filter q).length =
      (l.filter fun x => p x ∨ q x).length := by
  induction l with
  | nil => rfl
  | cons x l ih => by_cases hp : p x <;> by_cases hq : q x <;> simp [hp, hq] at ih ⊢ <;> omega

/-- Two passes remove as many leases as one pass at the later time. -/
lemma removed_pass_pass (h : ∀ i ∈ interfaces, i.Sound) (t₁ t₂ : Timestamp) :
    (pass t₁ interfaces).1 + (pass t₂ (pass t₁ interfaces).2).1 =
      (pass (max t₁ t₂) interfaces).1 := by
  rw [removed_pass, removed_pass, removed_pass, leases_pass h, length_filter_add]
  simp only [Lease.lapsed_max]

/-- What a pass as of `time` does. -/
structure Exact (time : Timestamp) (interfaces : List Interface) : Prop where
  count : (pass time interfaces).1 =
    ((interfaces.flatMap Interface.leases).filter (·.Lapsed time)).length
  /-- The count is the reply, and the listener is told once. -/
  told : ∀ f : Fleet, f.interfaces = interfaces → f.submit (.reapPass (some time)) =
    (.replied (.number (pass time interfaces).1),
      { f with interfaces := (pass time interfaces).2,
               passes := f.passes ++ [(pass time interfaces).1] })
  removed : ∀ i ∈ interfaces, (i.reapExpired time).1 = i.leases.filter (·.Lapsed time)
  swept : List.Forall₂ (Interface.Swept time) interfaces (pass time interfaces).2

/-- What two passes, in one order or the other, have in common with one. -/
structure Composes (t₁ t₂ : Timestamp) (interfaces : List Interface) : Prop where
  state : (pass t₂ (pass t₁ interfaces).2).2 = (pass (max t₁ t₂) interfaces).2
  state_swap : (pass t₁ (pass t₂ interfaces).2).2 = (pass (max t₁ t₂) interfaces).2
  count : (pass t₁ interfaces).1 + (pass t₂ (pass t₁ interfaces).2).1 =
    (pass (max t₁ t₂) interfaces).1
  count_swap : (pass t₂ interfaces).1 + (pass t₁ (pass t₂ interfaces).2).1 =
    (pass (max t₁ t₂) interfaces).1

/-- **A pass removes what has expired, and passes compose.** Whatever has happened to interfaces, a
pass removes exactly the dynamic leases that have expired, sets their keys free, and tells how many
they were; two passes are one pass at the later time. -/
theorem passes_exact (h : ∀ i ∈ interfaces, i.Reachable) :
    (∀ time, Exact time interfaces) ∧ ∀ t₁ t₂, Composes t₁ t₂ interfaces := by
  have hsound : ∀ i ∈ interfaces, i.Sound := fun i hi => (h i hi).sound
  constructor
  · intro time
    refine ⟨removed_pass interfaces time, ?_, ?_, swept_pass hsound time⟩
    · rintro f rfl
      rfl
    · intro i _
      exact i.removed_reapExpired time
  · intro t₁ t₂
    have hswap : max t₁ t₂ = max t₂ t₁ := max_comm t₁ t₂
    refine ⟨pass_pass hsound t₁ t₂, ?_, removed_pass_pass hsound t₁ t₂, ?_⟩
    · rw [hswap]
      exact pass_pass hsound t₂ t₁
    · rw [hswap]
      exact removed_pass_pass hsound t₂ t₁

/-- A lease that an operator has added runs out at the very time of a pass, and not a millisecond
before. -/
theorem exists_passes_exact : ∃ (i : Interface) (l : Lease), i.Reachable ∧ i.leases = [l] ∧
    (pass (.ofMillis 4999) [i]).1 = 0 ∧ (pass (.ofMillis 5000) [i]).1 = 1 ∧
      Exact (.ofMillis 5000) [i] ∧ Composes (.ofMillis 5000) (.ofMillis 4999) [i] := by
  let start : Interface := .ofConfig "eth0" ⟨some .default, some .default⟩ 0
  let l : Lease :=
    ⟨.v4 (.ofBytes 192 168 1 100), ⟨[2, 0, 0, 0, 0, 1]⟩, "phone", some (.ofMillis 5000), false⟩
  let i : Interface := (start.submit 0 (.addLease l)).2
  have hadd : ∀ r, InterfaceCommand.addLease l ≠ .allocate r := by simp
  have hi : i.Reachable := ⟨_, _, _, [], .single (.command 0 hadd start [] trivial)⟩
  have hall : ∀ i' ∈ [i], i'.Reachable := by simpa using hi
  obtain ⟨hexact, hcomposes⟩ := passes_exact hall
  exact ⟨i, l, hi, by decide +kernel, by decide +kernel, by decide +kernel, hexact _,
    hcomposes _ _⟩

end Reaper

end DhcpLeasing
