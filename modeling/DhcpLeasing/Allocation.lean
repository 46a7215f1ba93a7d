import DhcpLeasing.Interface.Basic

/-!
# Allocation

A client asks for an address. It keeps the one it has. A new one is probed before it is leased, so
an allocation comes to a halt at every probe: it has reserved the address and waits for the answer.
In between anything may happen to the interface. So an allocation is a chain of steps, `begin`, then
`resume` with the answer to each probe, or `abandon` when nobody waits any longer; each step acts on
the interface as it finds it.

A lease is committed in the last step only. If another change got in its way, the allocation starts
over once.
-/

namespace DhcpLeasing

/-- What a client asks for. The deadline is the time on the clock after which nobody waits for an
answer. -/
structure Request where
  client : HwAddr
  family : Family
  /-- The address the client would like to have. -/
  wanted : Option IpAddr
  hostname : Option String
  deadline : Option Nat
  deriving DecidableEq, Repr

/-- A request on its interface: the hostname is the one that will be leased. -/
structure Claim where
  interface : String
  request : Request
  hostname : String
  probeTimeout : Nat
  deriving DecidableEq, Repr

/-- An allocation that waits for the answer to a probe of the address it has reserved. -/
structure Pending where
  claim : Claim
  ip : IpAddr
  /-- The addresses that turned out to be in use. -/
  excluded : List IpAddr
  /-- How many more candidates may be tried. -/
  attempts : Nat
  /-- How many more times the allocation may start over. -/
  retries : Nat
  deriving DecidableEq, Repr

/-- How far an allocation has got. -/
inductive Progress where
  | done (result : Except LeaseError Lease)
  | probing (pending : Pending)

namespace Allocation

/-- How many candidates are tried, the wanted address apart. -/
def maxAttempts : Nat := 8

/-- How many times an allocation that lost a race starts over. -/
def maxRetries : Nat := 1

/-- The most probes of one allocation. -/
def maxProbes : Nat := (maxAttempts + 1) * (maxRetries + 1)

/-- The client's lease if it can be kept: a static one as it is, a dynamic one renewed. A dynamic
lease that no longer fits the pool is dropped. -/
def keepLease (now : Nat) (client : HwAddr) (scope : Scope) :
    Option (Except LeaseError Lease) × Scope :=
  match scope.table.lookupByHw client with
  | none => (none, scope)
  | some held =>
    if held.isStatic then (some (.ok held), scope)
    else if scope.pool.contains held.ip then
      let (result, table) := scope.table.renew (.ofMillis now) client held.ip scope.leaseDuration
      match result with
      | .ok l => (some (.ok l), { scope with table })
      -- a lease that is gone is no reason to refuse a new one
      | .error (.notFound _ _) => (none, { scope with table })
      | .error e => (some (.error e), { scope with table })
    else
      let (result, table) := scope.table.remove held.ip client
      match result with
      | .ok _ => (none, { scope with table })
      | .error (.notFound _ _) => (none, { scope with table })
      | .error e => (some (.error e), { scope with table })

/-- The client that holds the hostname of a claim, if it is another one. -/
def hostnameHolder (claim : Claim) (scope : Scope) : Option HwAddr :=
  (scope.table.lookupByHostname claim.hostname).bind fun holder =>
    if holder.hwAddr = claim.request.client then none else some holder.hwAddr

/-- Reserves the next candidate, if one more may be tried. -/
def reserveNext (excluded : List IpAddr) (scope : Scope) :
    (attempts : Nat) → Option (IpAddr × Nat × Scope)
  | 0 => none
  | attempts + 1 =>
    (scope.table.reserveCandidate scope.pool excluded).map fun (ip, table) =>
      (ip, attempts, { scope with table })

/-- Reserves the address the client would like to have. -/
def reserveWanted (claim : Claim) (scope : Scope) : Option (IpAddr × Nat × Scope) := do
  let ip ← claim.request.wanted
  guard (scope.pool.inDynamicRange ip)
  let table ← scope.table.reserve ip
  return (ip, maxAttempts, { scope with table })

/-- Reserves the first address to try: the wanted one or else the lowest candidate. Given are also
the candidates that may be tried after it. -/
def reserveFirst (claim : Claim) (scope : Scope) : Option (IpAddr × Nat × Scope) :=
  (reserveWanted claim scope).or (reserveNext [] scope maxAttempts)

/-- Gives up a reservation. -/
def giveUp (ip : IpAddr) (scope : Scope) : Scope :=
  { scope with table := scope.table.release ip }

/-- Whether nobody waits for the answer any longer. -/
def isLate (now : Nat) (claim : Claim) : Bool :=
  claim.request.deadline.any (· ≤ now)

/-- The lease that a claim is for, on an address. -/
def leaseFor (now : Nat) (claim : Claim) (ip : IpAddr) (scope : Scope) : Lease :=
  .dynamic (.ofMillis now) ip claim.request.client claim.hostname scope.leaseDuration

/-- Leases the reserved address. If that conflicts with a change made in the meantime, `again` goes
on. -/
def conclude (now : Nat) (claim : Claim) (again : Conflict → Scope → Progress × Scope)
    (ip : IpAddr) (scope : Scope) : Progress × Scope :=
  if isLate now claim then (.done (.error .timeout), giveUp ip scope)
  else
    let (result, table) := scope.table.commit (leaseFor now claim ip scope)
    -- from here on the lease itself keeps others away from the address
    let scope := giveUp ip { scope with table }
    match result with
    | .ok l => (.done (.ok l), scope)
    | .error (.conflict cause) => again cause scope
    | .error e => (.done (.error e), scope)

/-- Starts over: the client keeps its lease, or an address is reserved for it and probed, unless
probing is off. If the commit then loses a race, `again` goes on. -/
def openRound (now : Nat) (claim : Claim) (retries : Nat)
    (again : Conflict → Scope → Progress × Scope) (scope : Scope) : Progress × Scope :=
  match keepLease now claim.request.client scope with
  | (some result, scope) => (.done result, scope)
  | (none, scope) =>
    if !scope.pool.stateful then
      (.done (.error (.poolDisabled (.clientsChoose claim.request.family claim.interface))), scope)
    else
      match hostnameHolder claim scope with
      | some holder =>
        (.done (.error (.conflict (.hostnameLeased claim.hostname holder))), scope)
      | none =>
        match reserveFirst claim scope with
        | none => (.done (.error .poolExhausted), scope)
        | some (ip, attempts, scope) =>
          if claim.probeTimeout = 0 then conclude now claim again ip scope
          else (.probing ⟨claim, ip, [], attempts, retries⟩, scope)

/-- One round of an allocation that may start over `retries` times more. -/
def round (now : Nat) (claim : Claim) : (retries : Nat) → Scope → Progress × Scope
  | 0, scope =>
    openRound now claim 0 (fun cause scope => (.done (.error (.conflict cause)), scope)) scope
  | retries + 1, scope =>
    openRound now claim (retries + 1) (fun _ scope => round now claim retries scope) scope

/-- What follows a lost race: another round, or the conflict as the answer. -/
def retry (now : Nat) (claim : Claim) : (retries : Nat) → Conflict → Scope → Progress × Scope
  | 0, cause, scope => (.done (.error (.conflict cause)), scope)
  | retries + 1, _, scope => round now claim retries scope

/-- Goes on with the answer to a probe: an address in use is passed over, another one is leased. -/
def answer (now : Nat) (pending : Pending) (busy : Bool) (scope : Scope) : Progress × Scope :=
  if busy then
    let scope := giveUp pending.ip scope
    -- without the reservation it would be the next candidate again
    let excluded := pending.ip :: pending.excluded
    match reserveNext excluded scope pending.attempts with
    | none => (.done (.error .poolExhausted), scope)
    | some (ip, attempts, scope) => (.probing { pending with ip, excluded, attempts }, scope)
  else conclude now pending.claim (retry now pending.claim pending.retries) pending.ip scope

end Allocation

namespace Interface

/-- The claim that a request makes. -/
def claim (i : Interface) (request : Request) : Claim where
  interface := i.name
  request := request
  hostname := (request.hostname.bind Hostname.sanitize).getD ""
  probeTimeout := i.probeTimeout

/-- Begins an allocation. -/
def begin (now : Nat) (request : Request) (i : Interface) : Progress × Interface :=
  match i.scope? request.family with
  | none => (.done (.error (.poolDisabled (.familyOff request.family i.name))), i)
  | some scope =>
    match request.client.validateFor request.family with
    | .error fault => (.done (.error (.invalidRequest (.hwAddr fault))), i)
    | .ok () =>
      let (progress, scope) := Allocation.round now (i.claim request) Allocation.maxRetries scope
      (progress, i.setScope scope request.family)

/-- Goes on with the answer to the probe that an allocation waits for. -/
def resume (now : Nat) (pending : Pending) (busy : Bool) (i : Interface) : Progress × Interface :=
  let family := pending.claim.request.family
  match i.scope? family with
  | none => (.done (.error (.poolDisabled (.familyOff family i.name))), i)
  | some scope =>
    let (progress, scope) := Allocation.answer now pending busy scope
    (progress, i.setScope scope family)

/-- Ends an allocation that waits for a probe, and gives up its reservation. -/
def abandon (pending : Pending) (i : Interface) : Interface :=
  let family := pending.claim.request.family
  match i.scope? family with
  | none => i
  | some scope => i.setScope (Allocation.giveUp pending.ip scope) family

end Interface

end DhcpLeasing
