import DhcpLeasing.Interface.Basic

/-!
# Administration of an interface

What operators do to leases, clients giving a lease back, and leases running out. Leases that
operators enter are checked against the configuration; addresses are not probed.

An operation that can be refused answers with the interface after it, also when it is refused.
-/

namespace DhcpLeasing.Interface

/-- The scope of the family that an operator's address is of. -/
def adminScope (i : Interface) (ip : IpAddr) : Except LeaseError Scope :=
  match i.scope? ip.family with
  | some scope => .ok scope
  | none => .error (.invalidRequest (.familyOff ip.family i.name))

/-- Changes the table of the scope that an operator's address belongs to. -/
def changeTable (i : Interface) (ip : IpAddr)
    (change : LeaseTable → Except LeaseError Lease × LeaseTable) :
    Except LeaseError Lease × Interface :=
  match i.adminScope ip with
  | .error e => (.error e, i)
  | .ok scope =>
    let (result, table) := change scope.table
    (result, i.setScope { scope with table } ip.family)

/-- Checks that a dynamic lease fits a scope. -/
def checkDynamic (scope : Scope) (l : Lease) : Except RequestFault Unit := do
  unless scope.pool.contains l.ip do throw (.outsideRange l.ip)
  if l.expiresAt.isNone then throw (.noExpiry l.ip)

/-- An operator's lease as it is entered: with its hostname in lowercase, and without an expiry if
it is static. -/
def normalizeLease (i : Interface) (l : Lease) : Except LeaseError Lease := do
  let scope ← i.adminScope l.ip
  (l.hwAddr.validateFor l.family).mapError (.invalidRequest ∘ .hwAddr)
  let hostname ← (Hostname.validate l.hostname).mapError (.invalidRequest ∘ .hostname)
  if l.isStatic then
    (scope.pool.checkStatic l.ip).mapError .invalidRequest
    return { l with hostname, expiresAt := none }
  else
    (checkDynamic scope l).mapError .invalidRequest
    return { l with hostname }

/-- Adds an operator's lease. -/
def addLease (i : Interface) (l : Lease) : Except LeaseError Lease × Interface :=
  match i.normalizeLease l with
  | .error e => (.error e, i)
  | .ok l => i.changeTable l.ip (·.insert l)

/-- Replaces a lease, which is found by its address and its client, by another one. -/
def editLease (i : Interface) (old new : Lease) : Except LeaseError Lease × Interface :=
  if old.family ≠ new.family then
    (.error (.invalidRequest (.moveBetweenFamilies old.ip new.ip)), i)
  else
    match i.normalizeLease new with
    | .error e => (.error e, i)
    | .ok new => i.changeTable new.ip (·.edit old new)

/-- Removes a lease, which is found by its address and its client. -/
def removeLease (i : Interface) (l : Lease) : Except LeaseError Lease × Interface :=
  i.changeTable l.ip (·.remove l.ip l.hwAddr)

/-- Gives back a client's dynamic lease. -/
def release (i : Interface) (client : HwAddr) (ip : IpAddr) :
    Except LeaseError Lease × Interface :=
  i.changeTable ip fun table =>
    match table.lookup ip with
    | some l =>
      if l.hwAddr = client ∧ l.isStatic then
        (.error (.invalidRequest (.releaseOfStatic ip client)), table)
      else table.remove ip client
    | none => table.remove ip client

/-- Removes all leases and says how many there were. -/
def reset (i : Interface) : Nat × Interface :=
  (i.leases.length,
    { i with
      v4 := i.v4.map fun scope => { scope with table := scope.table.reset.2 }
      v6 := i.v6.map fun scope => { scope with table := scope.table.reset.2 } })

/-- Removes the dynamic leases that have expired at a time, and says which. -/
def reapExpired (i : Interface) (now : Timestamp) : List Lease × Interface :=
  (i.scopes.flatMap fun scope => (scope.table.reapExpired now).1,
    { i with
      v4 := i.v4.map fun scope => { scope with table := (scope.table.reapExpired now).2 }
      v6 := i.v6.map fun scope => { scope with table := (scope.table.reapExpired now).2 } })

end DhcpLeasing.Interface
