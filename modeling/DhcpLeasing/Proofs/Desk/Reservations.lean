import DhcpLeasing.Proofs.Desk.Calls

/-!
# Reservations of allocations under way

However allocations on an interface are nested and interleaved with each other and with other
commands, no two of them that wait have reserved the same address, none of them leases what another
one has reserved, and a call that is over has left no reservation behind.
-/

namespace DhcpLeasing.Desk

variable {d : Desk} {others : List Pending} {i : Interface} {p q : Pending} {l : Lease}

/-- An address that is probed is not one that another allocation waits for. -/
lemma Sound.ip_ne_of_probing (h : d.Sound) (hmove : Move d others (.probing p, i))
    (hq : q ∈ others) : q.ip ≠ p.ip := by
  obtain ⟨now, claim, base, hbase, ho, -⟩ := h.move_outcome hmove
  obtain ⟨-, hunreserved, s, hs, -, hoffers, -⟩ := ho.probing
  rw [← hbase.interface.family hs, ← hoffers.family_eq] at hunreserved
  exact hbase.ip_ne hunreserved hq

/-- An address that is leased anew is not one that another allocation waits for. -/
lemma Sound.ip_ne_of_leased (h : d.Sound) (hmove : Move d others (.done (.ok l), i))
    (hnew : d.interface.leaseByIp l.ip = none) (hq : q ∈ others) : q.ip ≠ l.ip := by
  obtain ⟨now, claim, base, hbase, ho, hleft, -⟩ := h.move_outcome hmove
  rw [← Interface.leaseByIp_of_unreserved hleft] at hnew
  exact hbase.ip_ne (ho.unreserved_of_new hbase.interface hnew) hq

/-- A call that is over has left no reservation behind. -/
lemma Sound.reserved_of_call {request : Request} {start left : Interface}
    {own : List (Interface × Interface)} {waiting : List Pending}
    {result : Except LeaseError Lease} (h : Sound ⟨start, waiting⟩)
    (hcall : Call request start own left (.done result, i)) (f : Family) :
    (i.reserved f).Perm (start.reserved f) := by
  obtain ⟨now, claim, base, -, hbase, -, ho⟩ := (hcall.explained h).outcome
  -- before and after the call the same allocations wait, and their addresses are what is reserved
  have hdone : Sound ⟨i, waiting⟩ := hbase.settle ho
  exact (hdone.reserved f).trans (h.reserved f).symm

/-- **Reservations are exclusive and given back.** On every desk that can be reached, the reserved
addresses are those of the allocations that wait, which all differ. An address that is probed or
leased anew is that of no other one that waits. When a call is over, however it has ended, the same
addresses are reserved as when it began. -/
theorem reservations_exclusive {name : String} {c : InterfaceConfig} {probeTimeout : ℕ}
    (hd : Reachable (.ofConfig name c probeTimeout) d) :
    (d.waiting.map (·.ip)).Nodup ∧
      (∀ f ip, ip ∈ d.interface.reserved f ↔ ∃ p ∈ d.waiting, p.family = f ∧ p.ip = ip) ∧
      (∀ others p i, Move d others (.probing p, i) → ∀ q ∈ others, q.ip ≠ p.ip) ∧
      (∀ others l i, Move d others (.done (.ok l), i) → d.interface.leaseByIp l.ip = none →
        ∀ q ∈ others, q.ip ≠ l.ip) ∧
      ∀ request own left result i, Call request d.interface own left (.done result, i) →
        ∀ f, (i.reserved f).Perm (d.interface.reserved f) := by
  have h : d.Sound := hd.sound.1
  refine ⟨h.distinct, ?_, ?_, ?_, ?_⟩
  · intro f ip
    rw [(h.reserved f).mem_iff, mem_addresses_iff]
  · intro others p i hmove q hq
    exact h.ip_ne_of_probing hmove hq
  · intro others l i hmove hnew q hq
    exact h.ip_ne_of_leased hmove hnew hq
  · intro request own left result i hcall f
    exact h.reserved_of_call hcall f

/-- Two clients wait for the first two addresses of the default configuration. -/
theorem exists_reservations_exclusive : ∃ d,
    Reachable (.ofConfig "eth0" ⟨some .default, some .default⟩ 1000) d ∧ d.waiting.length = 2 ∧
      (d.waiting.map (·.ip)).Nodup := by
  let i : Interface := .ofConfig "eth0" ⟨some .default, some .default⟩ 1000
  let request (n : UInt8) : Request := ⟨⟨[2, 0, 0, 0, 0, n]⟩, .v4, none, none, none⟩
  let d := settle [] (i.begin 0 (request 1))
  have hfirst : Step ⟨i, []⟩ d := .move (.begin 0 (request 1) i [])
  have hsecond : Step d (settle d.waiting (d.interface.begin 0 (request 2))) :=
    .move (.begin 0 (request 2) d.interface d.waiting)
  have hd : Reachable i (settle d.waiting (d.interface.begin 0 (request 2))) :=
    (Relation.ReflTransGen.single hfirst).tail hsecond
  exact ⟨_, hd, by decide +kernel, (reservations_exclusive hd).1⟩

end DhcpLeasing.Desk
