import DhcpLeasing.AddressPool
import DhcpLeasing.Lease.Basic

/-!
# Lease tables

The leases of one interface in one family, found by address, by client and by hostname. No two of
them share any of these keys, and every change that would let them is refused. A table also holds
the addresses that are reserved for an allocation under way.

An operation that can be refused answers with the table after it, also when it is refused.
-/

namespace DhcpLeasing

open Text

/-- The leases of a family, with an index for each of their keys. -/
structure LeaseTable where
  family : Family
  byIp : SortedMap IpAddr Lease
  byHw : SortedMap HwAddr IpAddr
  /-- By the hostname in lowercase; leases without a hostname are not in it. -/
  byHost : SortedMap String IpAddr
  /-- The addresses reserved for allocations under way. -/
  reserved : List IpAddr
  deriving DecidableEq

namespace LeaseTable

/-- The table of a family without leases. -/
def empty (family : Family) : LeaseTable :=
  ⟨family, .empty, .empty, .empty, []⟩

/-! ## Looking up -/

/-- All leases in the order of their addresses. -/
def leases (t : LeaseTable) : List Lease :=
  t.byIp.values

/-- The number of leases. -/
def size (t : LeaseTable) : Nat :=
  t.byIp.size

/-- The lease for an address. -/
def lookup (t : LeaseTable) (ip : IpAddr) : Option Lease :=
  t.byIp.get? ip

/-- The lease of a client. -/
def lookupByHw (t : LeaseTable) (client : HwAddr) : Option Lease :=
  (t.byHw.get? client).bind t.lookup

/-- The lease with a hostname, in any case. -/
def lookupByHostname (t : LeaseTable) (hostname : String) : Option Lease :=
  if hostname.isEmpty then none else (t.byHost.get? (lowercase hostname)).bind t.lookup

/-- The lease of a client for an address. -/
def find (t : LeaseTable) (ip : IpAddr) (client : HwAddr) : Except LeaseError Lease :=
  match t.lookup ip with
  | some l => if l.hwAddr = client then .ok l else .error (.notFound client ip)
  | none => .error (.notFound client ip)

/-! ## The indexes -/

/-- Enters a lease into all indexes. -/
def enter (t : LeaseTable) (l : Lease) : LeaseTable :=
  { t with
    byIp := t.byIp.insert l.ip l
    byHw := t.byHw.insert l.hwAddr l.ip
    byHost := if l.hostname.isEmpty then t.byHost else t.byHost.insert (lowercase l.hostname) l.ip }

/-- Strikes the lease for an address from all indexes. -/
def strike (t : LeaseTable) (ip : IpAddr) : LeaseTable :=
  match t.lookup ip with
  | none => t
  | some l =>
    { t with
      byIp := t.byIp.erase ip
      byHw := t.byHw.erase l.hwAddr
      byHost := if l.hostname.isEmpty then t.byHost else t.byHost.erase (lowercase l.hostname) }

/-- The conflict of a lease with those of the table. A lease may replace the same client's lease for
the same address, except a static one by a dynamic one. If it would, the address is given. -/
def replaced (t : LeaseTable) (l : Lease) : Except Conflict (Option IpAddr) :=
  match t.lookup l.ip with
  | none => .ok none
  | some held =>
    if held.hwAddr ≠ l.hwAddr then .error (.addressLeased l.ip held.hwAddr)
    else if held.isStatic && !l.isStatic then .error (.staticallyLeased l.ip held.hwAddr)
    else .ok (some l.ip)

/-- Checks that no other lease than the one that is replaced has the client or the hostname. -/
def checkKeys (t : LeaseTable) (l : Lease) (replaced : Option IpAddr) : Except Conflict Unit := do
  if let some held := t.byHw.get? l.hwAddr then
    if some held ≠ replaced then throw (.clientHolds l.hwAddr held)
  unless l.hostname.isEmpty do
    if let some held := t.byHost.get? (lowercase l.hostname) then
      if some held ≠ replaced then throw (.hostnameUsed l.hostname held)

/-- Checks that the table may take a lease, and which address the lease replaces. -/
def checkCommit (t : LeaseTable) (l : Lease) : Except Conflict (Option IpAddr) := do
  let replaced ← t.replaced l
  t.checkKeys l replaced
  return replaced

/-- Takes a lease, if no key of it is another's. -/
def put (t : LeaseTable) (l : Lease) : Except LeaseError Lease × LeaseTable :=
  match t.checkCommit l with
  | .error cause => (.error (.conflict cause), t)
  | .ok none => (.ok l, t.enter l)
  | .ok (some ip) => (.ok l, (t.strike ip).enter l)

/-! ## Changes -/

/-- Checks that an address is of the family of the table. -/
def checkFamily (t : LeaseTable) (ip : IpAddr) : Except LeaseError Unit :=
  if ip.family = t.family then .ok ()
  else .error (.invalidRequest (.wrongFamily ip t.family))

/-- Takes a new lease, or one in place of the same client's lease for the same address. -/
def commit (t : LeaseTable) (l : Lease) : Except LeaseError Lease × LeaseTable :=
  match t.checkFamily l.ip with
  | .error e => (.error e, t)
  | .ok () => t.put l

/-- Takes a lease for an address that nobody holds. -/
def insert (t : LeaseTable) (l : Lease) : Except LeaseError Lease × LeaseTable :=
  match t.checkFamily l.ip with
  | .error e => (.error e, t)
  | .ok () =>
    -- `put` alone would let it replace the client's own lease
    match t.lookup l.ip with
    | some held => (.error (.conflict (.addressLeased l.ip held.hwAddr)), t)
    | none => t.put l

/-- Renews a client's dynamic lease for an address. -/
def renew (t : LeaseTable) (now : Timestamp) (client : HwAddr) (ip : IpAddr) (d : Duration) :
    Except LeaseError Lease × LeaseTable :=
  match t.find ip client with
  | .error e => (.error e, t)
  | .ok l =>
    if l.isStatic then (.error (.conflict (.renewalOfStatic ip)), t)
    else
      let renewed := l.renew now d
      -- its keys stay the same, and with them the other indexes
      (.ok renewed, { t with byIp := t.byIp.insert ip renewed })

/-- Removes a client's lease for an address. -/
def remove (t : LeaseTable) (ip : IpAddr) (client : HwAddr) :
    Except LeaseError Lease × LeaseTable :=
  match t.find ip client with
  | .error e => (.error e, t)
  | .ok l => (.ok l, t.strike ip)

/-- Replaces a lease, which is found by its address and its client, by another one. If the table
cannot take the new lease, the old one is entered again. -/
def edit (t : LeaseTable) (old new : Lease) : Except LeaseError Lease × LeaseTable :=
  match t.checkFamily new.ip with
  | .error e => (.error e, t)
  | .ok () =>
    match t.find old.ip old.hwAddr with
    | .error e => (.error e, t)
    | .ok previous =>
      match (t.strike old.ip).put new with
      | (.ok l, t) => (.ok l, t)
      -- the keys of the old lease are free, since a refusal changes nothing
      | (.error e, t) => (.error e, t.enter previous)

/-- Removes all leases and says how many there were. Reservations stay. -/
def reset (t : LeaseTable) : Nat × LeaseTable :=
  (t.size, { empty t.family with reserved := t.reserved })

/-- Removes the dynamic leases that have expired at a time, and says which. -/
def reapExpired (t : LeaseTable) (now : Timestamp) : List Lease × LeaseTable :=
  let expired := t.leases.filter (·.isExpiredAt now)
  (expired, expired.foldl (fun t l => t.strike l.ip) t)

/-! ## Reservations -/

/-- Whether an address is leased or reserved. -/
def isTaken (t : LeaseTable) (ip : IpAddr) : Bool :=
  t.byIp.contains ip || t.reserved.contains ip

/-- Reserves an address, if it is neither leased nor reserved. -/
def reserve (t : LeaseTable) (ip : IpAddr) : Option LeaseTable :=
  if t.isTaken ip then none else some { t with reserved := ip :: t.reserved }

/-- Reserves the lowest address of a pool that is not leased, not reserved and not excluded. -/
def reserveCandidate (t : LeaseTable) (pool : AddressPool) (excluded : List IpAddr) :
    Option (IpAddr × LeaseTable) :=
  (pool.nextCandidate fun ip => t.isTaken ip || excluded.contains ip).map fun ip =>
    (ip, { t with reserved := ip :: t.reserved })

/-- Gives up the reservation of an address. -/
def release (t : LeaseTable) (ip : IpAddr) : LeaseTable :=
  { t with reserved := t.reserved.erase ip }

end LeaseTable

end DhcpLeasing
