import DhcpLeasing.Proofs.Scope

/-!
# The scopes of an interface

An interface is sound if its scopes are. What is done to it changes one scope or both alike:

* `setScope` and `mapScopes` are looked into by family, with one lemma each;
* `Interface.Amended` says that an interface has gone through changes that bring no lease that does
  not fit, at most one in each family. Such changes keep it sound, and leave its configuration and
  its reservations alone.
-/

namespace DhcpLeasing.Interface

variable {i i' : Interface} {s s' : Scope} {f : Family} {c : TableChange}

/-! ## Scopes by family -/

/-- The interface with all scopes changed in the same way. -/
def mapScopes (g : Scope → Scope) (i : Interface) : Interface :=
  { i with v4 := i.v4.map g, v6 := i.v6.map g }

@[simp] lemma scope?_mapScopes (g : Scope → Scope) (i : Interface) (f : Family) :
    (i.mapScopes g).scope? f = (i.scope? f).map g := by
  cases f <;> rfl

@[simp] lemma scope?_setScope (i : Interface) (s : Scope) (f f' : Family) :
    (i.setScope s f).scope? f' = if f' = f then some s else i.scope? f' := by
  cases f <;> cases f' <;> rfl

@[simp] lemma name_setScope (i : Interface) (s : Scope) (f : Family) :
    (i.setScope s f).name = i.name := by
  cases f <;> rfl

@[simp] lemma probeTimeout_setScope (i : Interface) (s : Scope) (f : Family) :
    (i.setScope s f).probeTimeout = i.probeTimeout := by
  cases f <;> rfl

lemma ext_scope? (hname : i.name = i'.name) (htimeout : i.probeTimeout = i'.probeTimeout)
    (hscope : ∀ f, i.scope? f = i'.scope? f) : i = i' := by
  have hv4 : i.v4 = i'.v4 := hscope .v4
  have hv6 : i.v6 = i'.v6 := hscope .v6
  cases i
  cases i'
  simp_all

lemma setScope_of_scope? (hs : i.scope? f = some s) : i.setScope s f = i := by
  apply ext_scope? (name_setScope ..) (probeTimeout_setScope ..)
  intro f'
  rw [scope?_setScope]
  split
  · next heq => rw [heq, hs]
  · rfl

@[simp] lemma setScope_setScope (i : Interface) (s s' : Scope) (f : Family) :
    (i.setScope s f).setScope s' f = i.setScope s' f := by
  cases f <;> rfl

/-- The interface after a change of the table of a family. -/
def change (i : Interface) (f : Family) (c : TableChange) : Interface :=
  ((i.scope? f).map fun s => i.setScope (s.change c) f).getD i

lemma change_of_scope? (hs : i.scope? f = some s) (c : TableChange) :
    i.change f c = i.setScope (s.change c) f := by
  simp [change, hs]

/-! ## What does not change -/

/-- The interface without leases and reservations. What is left is how it was configured. -/
def emptied (i : Interface) : Interface :=
  i.mapScopes fun s => .ofPool s.pool s.leaseDuration

/-- The interface without reservations. What is left are its leases. -/
def unreserved (i : Interface) : Interface :=
  i.mapScopes Scope.unreserved

/-- The reserved addresses of a family. -/
def reserved (i : Interface) (f : Family) : List IpAddr :=
  ((i.scope? f).map (·.table.reserved)).getD []

lemma reserved_of_scope? (hs : i.scope? f = some s) : i.reserved f = s.table.reserved := by
  simp [reserved, hs]

@[simp] lemma leaseByIp_unreserved (i : Interface) (ip : IpAddr) :
    i.unreserved.leaseByIp ip = i.leaseByIp ip := by
  rw [leaseByIp, leaseByIp, unreserved, scope?_mapScopes]
  cases i.scope? ip.family <;> rfl

lemma leaseByIp_of_scope? {ip : IpAddr} (hs : i.scope? ip.family = some s) :
    i.leaseByIp ip = s.table.lookup ip := by
  rw [leaseByIp, hs, Option.bind_some]

lemma leaseByHw_of_scope? {client : HwAddr} (hs : i.scope? f = some s) :
    i.leaseByHw f client = s.table.lookupByHw client := by
  rw [leaseByHw, hs, Option.bind_some]

lemma leaseByIp_of_unreserved (h : i.unreserved = i'.unreserved) (ip : IpAddr) :
    i.leaseByIp ip = i'.leaseByIp ip := by
  rw [← leaseByIp_unreserved i, h, leaseByIp_unreserved]

@[simp] lemma leaseByHw_unreserved (i : Interface) (f : Family) (client : HwAddr) :
    i.unreserved.leaseByHw f client = i.leaseByHw f client := by
  rw [leaseByHw, leaseByHw, unreserved, scope?_mapScopes]
  cases i.scope? f <;> rfl

lemma leaseByHw_of_unreserved (h : i.unreserved = i'.unreserved) (f : Family) (client : HwAddr) :
    i.leaseByHw f client = i'.leaseByHw f client := by
  rw [← leaseByHw_unreserved i, h, leaseByHw_unreserved]

@[simp] lemma leases_unreserved (i : Interface) : i.unreserved.leases = i.leases := by
  obtain ⟨name, v4, v6, probeTimeout⟩ := i
  cases v4 <;> cases v6 <;> rfl

lemma leases_of_unreserved (h : i.unreserved = i'.unreserved) : i.leases = i'.leases := by
  rw [← leases_unreserved i, h, leases_unreserved]

lemma emptied_ofConfig (name : String) (c : InterfaceConfig) (probeTimeout : ℕ) :
    (ofConfig name c probeTimeout).emptied = ofConfig name c probeTimeout := by
  simp [emptied, mapScopes, ofConfig, Function.comp_def, Scope.ofPool]

lemma leaseByIp_ofConfig (name : String) (c : InterfaceConfig) (probeTimeout : ℕ) (ip : IpAddr) :
    (ofConfig name c probeTimeout).leaseByIp ip = none := by
  rw [← emptied_ofConfig, leaseByIp, emptied, scope?_mapScopes]
  cases (ofConfig name c probeTimeout).scope? ip.family <;> rfl

/-- Interfaces that are configured alike have scopes in the same families. -/
lemma scope?_of_emptied (h : i'.emptied = i.emptied) (hs : i.scope? f = some s) :
    ∃ s', i'.scope? f = some s' ∧ s'.pool = s.pool := by
  have hscope : i'.emptied.scope? f = i.emptied.scope? f := by rw [h]
  simp only [emptied, scope?_mapScopes, hs, Option.map_some, Option.map_eq_some_iff]
    at hscope
  obtain ⟨s', hs', heq⟩ := hscope
  exact ⟨s', hs', congrArg (·.pool) heq⟩

lemma reserved_emptied (i : Interface) (f : Family) : i.emptied.reserved f = [] := by
  cases hs : i.scope? f <;> simp [reserved, emptied, hs, Scope.ofPool, LeaseTable.empty]

lemma emptied_setScope (hs : i.scope? f = some s) (hpool : s'.pool = s.pool)
    (hduration : s'.leaseDuration = s.leaseDuration) : (i.setScope s' f).emptied = i.emptied := by
  refine ext_scope? (name_setScope ..) (probeTimeout_setScope ..) ?_
  intro f'
  simp only [emptied, scope?_mapScopes, scope?_setScope]
  split
  · next heq => rw [heq, hs, Option.map_some, Option.map_some, hpool, hduration]
  · rfl

lemma unreserved_setScope (hs : i.scope? f = some s) (hleases : s'.unreserved = s.unreserved) :
    (i.setScope s' f).unreserved = i.unreserved := by
  refine ext_scope? (name_setScope ..) (probeTimeout_setScope ..) ?_
  intro f'
  simp only [unreserved, scope?_mapScopes, scope?_setScope]
  split
  · next heq => rw [heq, hs, Option.map_some, Option.map_some, hleases]
  · rfl

lemma unreserved_change (i : Interface) (f : Family) (c : TableChange) :
    (i.change f c).unreserved = i.unreserved.change f c := by
  cases hs : i.scope? f with
  | none => simp [change, unreserved, hs]
  | some s =>
    have hs' : i.unreserved.scope? f = some s.unreserved := by simp [unreserved, hs]
    rw [change_of_scope? hs, change_of_scope? hs', ← Scope.unreserved_change]
    cases f <;> rfl

/-! ## Sound interfaces -/

/-- An interface whose scopes are sound, each of the family that it is looked up by. -/
structure Sound (i : Interface) : Prop where
  family : ∀ {f s}, i.scope? f = some s → s.pool.family = f
  scope : ∀ {f s}, i.scope? f = some s → s.Sound

lemma Sound.ofConfig (name : String) (c : InterfaceConfig) (probeTimeout : ℕ) :
    (ofConfig name c probeTimeout).Sound := by
  have hscope : ∀ {f s}, (Interface.ofConfig name c probeTimeout).scope? f = some s →
      s.pool.family = f ∧ s.Sound := by
    intro f s hs
    cases f with
    | v4 =>
      obtain ⟨v4, -, rfl⟩ := Option.map_eq_some_iff.1 hs
      exact ⟨rfl, .ofPool (.v4 v4) _⟩
    | v6 =>
      obtain ⟨v6, -, rfl⟩ := Option.map_eq_some_iff.1 hs
      exact ⟨rfl, .ofPool (.v6 v6) _⟩
  exact ⟨fun hs => (hscope hs).1, fun hs => (hscope hs).2⟩

lemma Sound.setScope (h : i.Sound) (hfamily : s.pool.family = f) (hs : s.Sound) :
    (i.setScope s f).Sound := by
  refine ⟨?_, ?_⟩
  · intro f' s' hs'
    rw [scope?_setScope] at hs'
    split at hs'
    · next heq => rw [← Option.some.inj hs', hfamily, heq]
    · exact h.family hs'
  · intro f' s' hs'
    rw [scope?_setScope] at hs'
    split at hs'
    · rwa [← Option.some.inj hs']
    · exact h.scope hs'

/-- The leases of an interface are those of its scopes. -/
lemma mem_leases_iff {l : Lease} :
    l ∈ i.leases ↔ ∃ f s, i.scope? f = some s ∧ l ∈ s.table.leases := by
  simp only [leases, scopes, List.mem_flatMap, List.mem_append, Option.mem_toList]
  constructor
  · rintro ⟨s, hs | hs, hl⟩
    · exact ⟨.v4, s, hs, hl⟩
    · exact ⟨.v6, s, hs, hl⟩
  · rintro ⟨f, s, hs, hl⟩
    cases f with
    | v4 => exact ⟨s, .inl hs, hl⟩
    | v6 => exact ⟨s, .inr hs, hl⟩

lemma leases_eq (i : Interface) : i.leases =
    (i.scope? .v4).toList.flatMap (·.table.leases) ++
      (i.scope? .v6).toList.flatMap (·.table.leases) := by
  rw [leases, scopes, List.flatMap_append]
  rfl

/-- A scope has no lease of another family. -/
lemma Sound.lookup_of_family_ne (h : i.Sound) (hs : i.scope? f = some s) {ip : IpAddr}
    (hne : ip.family ≠ f) : s.table.lookup ip = none := by
  rw [Option.eq_none_iff_forall_ne_some]
  intro l hl
  have hsound := h.scope hs
  exact hne ((hsound.table.family_eq hl).trans (hsound.family.trans (h.family hs)))

/-- The leases of a scope are of its family. -/
lemma Sound.family_of_mem (h : i.Sound) (hs : i.scope? f = some s) (hl : l ∈ s.table.leases) :
    l.ip.family = f := by
  have hlookup := (h.scope hs).table.mem_leases_iff.1 hl
  by_contra hne
  rw [h.lookup_of_family_ne hs hne] at hlookup
  cases hlookup

lemma Sound.exists_scope (h : i.Sound) (hl : l ∈ i.leases) :
    ∃ s, i.scope? l.ip.family = some s ∧ s.table.lookup l.ip = some l := by
  obtain ⟨f, s, hs, hl⟩ := mem_leases_iff.1 hl
  obtain rfl := h.family_of_mem hs hl
  exact ⟨s, hs, (h.scope hs).table.mem_leases_iff.1 hl⟩

lemma Sound.ip_eq (h : i.Sound) {ip : IpAddr} (hl : i.leaseByIp ip = some l) : l.ip = ip := by
  obtain ⟨s, hs, hl⟩ := Option.bind_eq_some_iff.1 hl
  exact (h.scope hs).table.ip_eq hl

lemma Sound.family_of_mem_scope? (h : i.Sound)
    (hl : l ∈ (i.scope? f).toList.flatMap (·.table.leases)) : l.ip.family = f := by
  obtain ⟨s, hs, hl⟩ := List.mem_flatMap.1 hl
  exact h.family_of_mem (Option.mem_toList.1 hs) hl

/-- No lease is listed twice. -/
lemma Sound.nodup_leases (h : i.Sound) : i.leases.Nodup := by
  have hnodup : ∀ f, ((i.scope? f).toList.flatMap (·.table.leases)).Nodup := by
    intro f
    cases hs : i.scope? f with
    | none => simp
    | some s => simpa using (h.scope hs).table.nodup_leases
  rw [leases_eq, List.nodup_append]
  refine ⟨hnodup .v4, hnodup .v6, ?_⟩
  rintro l hv4 _ hv6 rfl
  cases (h.family_of_mem_scope? hv4).symm.trans (h.family_of_mem_scope? hv6)

/-- The leases of an interface are those of a scope between those of the other one. -/
lemma Sound.leases_split (h : i.Sound) (hs : i.scope? f = some s) :
    ∃ before after : List Lease,
      (∀ m ∈ before, m.family ≠ f) ∧ (∀ m ∈ after, m.family ≠ f) ∧
      ∀ s' : Scope, (i.setScope s' f).leases = before ++ s'.table.leases ++ after := by
  have hother : ∀ f' ≠ f, ∀ m ∈ (i.scope? f').toList.flatMap (·.table.leases), m.family ≠ f := by
    intro f' hne m hm heq
    exact hne ((h.family_of_mem_scope? hm).symm.trans heq)
  cases f with
  | v4 =>
    refine ⟨[], _, by simp, hother .v6 (by decide), ?_⟩
    intro s'
    rw [leases_eq, scope?_setScope, scope?_setScope]
    simp
  | v6 =>
    refine ⟨_, [], hother .v4 (by decide), by simp, ?_⟩
    intro s'
    rw [leases_eq, scope?_setScope, scope?_setScope]
    simp

/-! ## Changes of an interface -/

/-- What it means that an interface has gone through changes, at most one in each family, that bring
no lease that does not fit. -/
structure Amended (i i' : Interface) : Prop where
  name_eq : i'.name = i.name
  probeTimeout_eq : i'.probeTimeout = i.probeTimeout
  scope : ∀ f, i'.scope? f = i.scope? f ∨
    ∃ s c, i.scope? f = some s ∧ c.Fits s.pool ∧ i'.scope? f = some (s.change c)

namespace Amended

lemma refl (i : Interface) : Amended i i :=
  ⟨rfl, rfl, fun _ => .inl rfl⟩

/-- A change in one family. -/
lemma setScope (hs : i.scope? f = some s) (hc : c.Fits s.pool) :
    Amended i (i.setScope (s.change c) f) := by
  refine ⟨name_setScope .., probeTimeout_setScope .., ?_⟩
  intro f'
  rw [scope?_setScope]
  split
  · next heq => exact .inr ⟨s, c, heq ▸ hs, hc, rfl⟩
  · exact .inl rfl

/-- The same change in all families. -/
lemma mapScopes (i : Interface) (hc : ∀ p, c.Fits p) :
    Amended i (i.mapScopes (·.change c)) := by
  refine ⟨rfl, rfl, ?_⟩
  intro f
  rw [scope?_mapScopes]
  cases hs : i.scope? f with
  | none => exact .inl rfl
  | some s => exact .inr ⟨s, c, rfl, hc s.pool, rfl⟩

lemma sound (ha : Amended i i') (h : i.Sound) : i'.Sound := by
  refine ⟨?_, ?_⟩
  · intro f s' hs'
    rcases ha.scope f with heq | ⟨s, c, hs, -, heq⟩
    · rw [heq] at hs'
      exact h.family hs'
    · rw [heq] at hs'
      rw [← Option.some.inj hs', Scope.pool_change, h.family hs]
  · intro f s' hs'
    rcases ha.scope f with heq | ⟨s, c, hs, hc, heq⟩
    · rw [heq] at hs'
      exact h.scope hs'
    · rw [heq] at hs'
      rw [← Option.some.inj hs']
      exact (h.scope hs).change hc

lemma emptied_eq (ha : Amended i i') : i'.emptied = i.emptied := by
  refine ext_scope? ha.name_eq ha.probeTimeout_eq ?_
  intro f
  -- what a change leaves alone is all that an emptied scope has
  simp only [emptied, scope?_mapScopes]
  rcases ha.scope f with heq | ⟨s, c, hs, -, heq⟩
  · rw [heq]
  · rw [heq, hs, Option.map_some, Option.map_some, Scope.pool_change, Scope.leaseDuration_change]

lemma reserved_eq (ha : Amended i i') (f : Family) :
    i'.reserved f = i.reserved f := by
  rcases ha.scope f with heq | ⟨s, c, hs, -, heq⟩
  · simp only [reserved, heq]
  · rw [reserved_of_scope? heq, reserved_of_scope? hs]
    exact LeaseTable.reserved_change s.table c

end Amended

end DhcpLeasing.Interface
