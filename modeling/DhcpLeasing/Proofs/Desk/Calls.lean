import DhcpLeasing.Proofs.Desk

/-!
# Allocation calls

An allocation call from its beginning to its end, with whatever happens while it waits. All its
steps but the last leave the leases alone, and the last one changes at most the client's own entry.
-/

namespace DhcpLeasing.Desk

/-- An allocation call up to some step of its own: `left` is the interface that this step finds, and
`r` what comes of it. `own` are its earlier steps, the last one first, each with the interface
before and after it. A call that is abandoned ends as if its time had run out. -/
inductive Call (request : Request) (start : Interface) :
    (own : List (Interface × Interface)) → (left : Interface) → (r : Progress × Interface) → Prop
  | begin (now : ℕ) : Call request start [] start (start.begin now request)
  | resume {own : List (Interface × Interface)} {left i left' : Interface} {p : Pending}
      (h : Call request start own left (.probing p, i)) (meanwhile : Meanwhile i left') (now : ℕ)
      (busy : Bool) : Call request start ((left, i) :: own) left' (left'.resume now p busy)
  | abandon {own : List (Interface × Interface)} {left i left' : Interface} {p : Pending}
      (h : Call request start own left (.probing p, i)) (meanwhile : Meanwhile i left') :
      Call request start ((left, i) :: own) left' (.done (.error .timeout), left'.abandon p)

variable {request : Request} {start left i : Interface} {own : List (Interface × Interface)}
  {waiting : List Pending} {r : Progress × Interface} {p : Pending}

/-- The desk on which a call waits for a probe. -/
lemma Sound.probing {now : ℕ} {claim : Claim} {base : Interface} (h : Sound ⟨base, waiting⟩)
    (ho : Interface.Outcome now claim base (.probing p, i)) :
    Sound ⟨i, p :: waiting⟩ ∧ p.claim = claim ∧ i.unreserved = base.unreserved := by
  obtain ⟨hclaim, -, s, hs, -, -, -, rfl⟩ := ho.probing
  exact ⟨h.settle ho, hclaim, Interface.unreserved_setScope hs (Scope.unreserved_hold s p.ip)⟩

/-- What holds of a call up to some step: the call has found sound interfaces before and left their
leases alone, and what comes of the step is told relative to the interface `base` on which the
reservation that it may have is given up. -/
structure Explained (request : Request) (waiting : List Pending)
    (own : List (Interface × Interface)) (left : Interface) (r : Progress × Interface) : Prop where
  sound : left.Sound
  own : ∀ step ∈ own, step.1.Sound ∧ step.2.unreserved = step.1.unreserved
  outcome : ∃ now claim base, claim.request = request ∧ Sound ⟨base, waiting⟩ ∧
    base.unreserved = left.unreserved ∧ Interface.Outcome now claim base r

/-- What is known when the wait for a probe is over. -/
lemma Explained.wait {left' : Interface} (h : Explained request waiting own left (.probing p, i))
    (hmeanwhile : Meanwhile i left') :
    Sound ⟨left', [] ++ p :: waiting⟩ ∧ p.claim.request = request ∧
      ∀ step ∈ (left, i) :: own, step.1.Sound ∧ step.2.unreserved = step.1.unreserved := by
  obtain ⟨now, claim, base, hclaim, hbase, hleft, ho⟩ := h.outcome
  obtain ⟨hwait, hp, hkept⟩ := hbase.probing ho
  -- the reservation of the call is one of those that wait, so the run goes on beside it
  have hdesk : Sound ⟨left', p :: waiting⟩ := (hwait.run (hmeanwhile.beside _)).1
  refine ⟨hdesk, hp ▸ hclaim, ?_⟩
  intro step hstep
  rcases List.mem_cons.1 hstep with rfl | hstep
  · exact ⟨h.sound, hkept.trans hleft⟩
  · exact h.own step hstep

lemma Call.explained (hcall : Call request start own left r) (h : Sound ⟨start, waiting⟩) :
    Explained request waiting own left r := by
  induction hcall with
  | begin now =>
    exact ⟨h.interface, by simp, now, start.claim request, start, rfl, h, rfl,
      Interface.begin_outcome h.interface now request⟩
  | @resume own left i left' p _ hmeanwhile now busy ih =>
    obtain ⟨hdesk, hrequest, hown⟩ := ih.wait hmeanwhile
    exact ⟨hdesk.interface, hown, now, p.claim, left'.abandon p, hrequest, hdesk.abandon,
      left'.unreserved_abandon p, hdesk.resume_outcome now busy⟩
  | @abandon own left i left' p _ hmeanwhile ih =>
    obtain ⟨hdesk, hrequest, hown⟩ := ih.wait hmeanwhile
    exact ⟨hdesk.interface, hown, 0, p.claim, left'.abandon p, hrequest, hdesk.abandon,
      left'.unreserved_abandon p, .refused .timeout⟩

/-- Every interface that a step of a call finds is sound. -/
lemma Explained.found (h : Explained request waiting own left r) {found : Interface}
    (hfound : found ∈ left :: own.map Prod.fst) : found.Sound := by
  rcases List.mem_cons.1 hfound with rfl | hfound
  · exact h.sound
  · obtain ⟨step, hstep, rfl⟩ := List.mem_map.1 hfound
    exact (h.own step hstep).1

/-! ## What a call does to the leases -/

/-- What a call that is over has done to the leases that it found last: nothing if it has failed.
Otherwise it has done nothing but grant the request, by at most one change, which is to commit the
lease or to renew it. -/
def Effect (request : Request) (left i : Interface) : Except LeaseError Lease → Prop
  | .ok l => left.Granted i request l ∧ (i.unreserved = left.unreserved ∨
      ∃ c : TableChange, (c = .commit l ∨ ∃ time d, c = .renew time request.client l.ip d) ∧
        i.unreserved = left.unreserved.change request.family c)
  | .error _ => i.unreserved = left.unreserved

lemma Explained.effect {result : Except LeaseError Lease}
    (h : Explained request waiting own left (.done result, i)) : Effect request left i result := by
  obtain ⟨now, claim, base, rfl, hbase, hleft, ho⟩ := h.outcome
  cases result with
  | error e => rw [Effect, ho.eq_of_error, hleft]
  | ok l =>
    -- giving the reservation up has left every lease where it was
    have hlease := Interface.leaseByIp_of_unreserved hleft
    obtain ⟨hhw, hfamily, hip, hclient, hown, hothers⟩ := ho.granted hbase.interface
    refine ⟨⟨hhw, hfamily, hip, hclient, ?_, ?_⟩, ?_⟩
    · intro m hm
      rw [← hlease] at hm
      exact hown hm
    · intro ip hne
      rw [hothers hne, hlease]
    · rcases ho.change_of_ok with rfl | ⟨c, hc, rfl⟩
      · exact .inl hleft
      · exact .inr ⟨c, hc, by rw [Interface.unreserved_change, hleft]⟩

/-- A call removes no lease: who held an address before still holds it. -/
lemma Effect.holds {result : Except LeaseError Lease} (h : Effect request left i result)
    {ip : IpAddr} {m : Lease} (hm : left.leaseByIp ip = some m) :
    ∃ m', i.leaseByIp ip = some m' ∧ m'.hwAddr = m.hwAddr := by
  cases result with
  | error e => exact ⟨m, by rw [Interface.leaseByIp_of_unreserved h, hm], rfl⟩
  | ok l =>
    have hgranted := h.1
    by_cases hip : ip = l.ip
    · subst hip
      exact ⟨l, hgranted.leaseByIp, by rw [hgranted.hwAddr_eq, hgranted.own hm]⟩
    · exact ⟨m, by rw [hgranted.others hip, hm], rfl⟩

/-- **A call changes the client's own entry at most.** Whatever happens on the interface while a
call waits, the call leaves the leases alone until its last step, which grants the request or
changes nothing. No lease is removed; in particular every dynamic lease that a step finds is for an
address that dynamic leases may be for, so that none is dropped in favour of a new one. -/
theorem call_changes_own_entry {name : String} {c : InterfaceConfig} {probeTimeout : ℕ}
    (hd : Reachable (.ofConfig name c probeTimeout) ⟨start, waiting⟩)
    {result : Except LeaseError Lease} (hcall : Call request start own left (.done result, i)) :
    (∀ step ∈ own, step.2.unreserved = step.1.unreserved) ∧ Effect request left i result ∧
      (∀ ip m, left.leaseByIp ip = some m →
        ∃ m', i.leaseByIp ip = some m' ∧ m'.hwAddr = m.hwAddr) ∧
      ∀ found ∈ left :: own.map Prod.fst, ∀ f s client held, found.scope? f = some s →
        s.table.lookupByHw client = some held → held.isStatic ∨ s.pool.contains held.ip := by
  have hexplained := hcall.explained hd.sound.1
  have heffect : Effect request left i result := hexplained.effect
  refine ⟨fun step hstep => (hexplained.own step hstep).2, heffect, ?_, ?_⟩
  · intro ip m hm
    exact heffect.holds hm
  · intro found hfound f s client held hs hheld
    have hsound : s.Sound := (hexplained.found hfound).scope hs
    cases hstatic : held.isStatic with
    | true => exact .inl rfl
    | false => exact .inr (hsound.contains_of_lookupByHw hheld hstatic)

/-- A call for the first address of the default configuration, while an operator adds a lease. -/
theorem exists_call_changes_own_entry : ∃ request start own left l i,
    Call request start own left (.done (.ok l), i) ∧ start.leases = [] ∧ left.leases.length = 1 ∧
      i.leases.length = 2 ∧ Effect request left i (.ok l) := by
  let start : Interface := .ofConfig "eth0" ⟨some .default, some .default⟩ 1000
  let request : Request := ⟨⟨[2, 0, 0, 0, 0, 1]⟩, .v4, none, some "Lamp", none⟩
  let p : Pending := ⟨start.claim request, .v4 (.ofBytes 192 168 1 100), [], 7, 1⟩
  let other : Lease := .static (.v4 (.ofBytes 192 168 1 50)) ⟨[2, 0, 0, 0, 0, 2]⟩ "printer"
  let i := (start.begin 0 request).2
  let left := (i.submit 1 (.addLease other)).2
  let l : Lease := .dynamic (.ofMillis 2) p.ip request.client "lamp" (.ofSeconds 86400)
  have hprobing : start.begin 0 request = (.probing p, i) :=
    Prod.fst_eq_iff.1 (by decide +kernel)
  have hdone : left.resume 2 p false = (.done (.ok l), (left.resume 2 p false).2) :=
    Prod.fst_eq_iff.1 (by decide +kernel)
  have hbegin : Call request start [] start (.probing p, i) := hprobing ▸ .begin 0
  have hadd : ∀ r, InterfaceCommand.addLease other ≠ .allocate r := by simp
  have hmeanwhile : Meanwhile i left := .single (.command 1 hadd i [] trivial)
  have hcall : Call request start [(start, i)] left (.done (.ok l), (left.resume 2 p false).2) :=
    hdone ▸ hbegin.resume hmeanwhile 2 false
  have hd : Reachable start ⟨start, []⟩ := .refl
  exact ⟨_, _, _, _, _, _, hcall, by decide +kernel, by decide +kernel, by decide +kernel,
    (call_changes_own_entry hd hcall).2.1⟩

end DhcpLeasing.Desk
