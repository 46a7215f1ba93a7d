import DhcpLeasing.LeaseTable
import DhcpLeasing.Reply

/-!
# Commands to a lease table

Everything that can be asked of a lease table, as data. A workbench is a table in use: it has a
clock, a pool to choose addresses from, and a slot for every reservation that was made on it. A slot
is empty once its reservation has been given up.
-/

namespace DhcpLeasing

/-- A command to a table. -/
inductive TableCommand where
  | advance (millis : Nat)
  | commit (l : Lease)
  | insert (l : Lease)
  | renew (client : HwAddr) (ip : IpAddr) (d : Duration)
  | remove (ip : IpAddr) (client : HwAddr)
  | edit (old new : Lease)
  | reset
  /-- Removes the leases that have expired at a time, or now. -/
  | reap (time : Option Timestamp)
  | lookup (ip : IpAddr)
  | lookupByHw (client : HwAddr)
  | lookupByHostname (hostname : String)
  | leases
  | isEmpty
  | reserve (ip : IpAddr)
  | reserveCandidate (excluded : List IpAddr)
  /-- Gives up the reservation in a slot. -/
  | drop (slot : Nat)
  /-- A command that is refused without a look at the table. -/
  | refuse (e : LeaseError)
  deriving DecidableEq, Repr

/-- A table in use. -/
structure Workbench where
  clock : Nat
  pool : AddressPool
  table : LeaseTable
  slots : List (Option IpAddr)
  deriving DecidableEq

namespace Workbench

/-- A workbench with an empty table. -/
def ofPool (clock : Nat) (pool : AddressPool) (family : Family) : Workbench :=
  ⟨clock, pool, .empty family, []⟩

/-- The addresses whose reservations have not been given up. -/
def held (w : Workbench) : List IpAddr :=
  w.slots.filterMap id

/-- The reply to a command that changes one lease. -/
def replyLease (w : Workbench) (change : Except LeaseError Lease × LeaseTable) :
    Reply × Workbench :=
  (.lease change.1, { w with table := change.2 })

/-- Puts a reservation into the next slot, if it was made. -/
def hold (w : Workbench) : Option (IpAddr × LeaseTable) → Reply × Workbench
  | none => (.text none, w)
  | some (ip, table) => (.text (some ip.toText), { w with table, slots := w.slots ++ [some ip] })

/-- Gives up the reservation in a slot, and says whether there was one. -/
def drop (w : Workbench) (slot : Nat) : Bool × Workbench :=
  match w.slots[slot]?.join with
  | none => (false, w)
  | some ip => (true, { w with table := w.table.release ip, slots := w.slots.set slot none })

/-- Carries out a command. -/
def submit (command : TableCommand) (w : Workbench) : Reply × Workbench :=
  match command with
  | .advance millis => (.nothing, { w with clock := w.clock + millis })
  | .commit l => w.replyLease (w.table.commit l)
  | .insert l => w.replyLease (w.table.insert l)
  | .renew client ip d => w.replyLease (w.table.renew (.ofMillis w.clock) client ip d)
  | .remove ip client => w.replyLease (w.table.remove ip client)
  | .edit old new => w.replyLease (w.table.edit old new)
  | .reset =>
    let (count, table) := w.table.reset
    (.number count, { w with table })
  | .reap time =>
    let (reaped, table) := w.table.reapExpired (time.getD (.ofMillis w.clock))
    (.leases reaped, { w with table })
  | .lookup ip => (.found (w.table.lookup ip), w)
  | .lookupByHw client => (.found (w.table.lookupByHw client), w)
  | .lookupByHostname hostname => (.found (w.table.lookupByHostname hostname), w)
  | .leases => (.leases w.table.leases, w)
  | .isEmpty => (.truth w.table.leases.isEmpty, w)
  | .reserve ip => w.hold ((w.table.reserve ip).map (ip, ·))
  | .reserveCandidate excluded => w.hold (w.table.reserveCandidate w.pool excluded)
  | .drop slot =>
    let (wasHeld, w) := w.drop slot
    (.truth wasHeld, w)
  | .refuse e => (.refused e, w)

end Workbench

end DhcpLeasing
