import DhcpLeasing.Disk
import DhcpLeasing.Interface.Admin
import DhcpLeasing.LeaseFile
import DhcpLeasing.Reaper

/-!
# The service

All interfaces of a deployment, and the lease file that lets their leases outlive a restart. A
change makes the file out of date, and it is written at most once in a save interval: by the change
itself, or by a later change, a reap pass or a command to save.
-/

namespace DhcpLeasing

open Text

/-- A service in operation, with the disk that its lease file is on. -/
structure Service where
  config : Config
  /-- The interfaces with a family that is on, by their names. -/
  interfaces : SortedMap String Interface
  disk : Disk
  /-- Whether leases have changed since they were last written. -/
  dirty : Bool
  /-- The time of the last write. -/
  lastSave : Option Nat
  /-- When the next pass of the background reaper is due, while it runs. -/
  nextPass : Option Nat
  deriving DecidableEq

namespace Service

/-! ## Looking up -/

/-- The leases of all interfaces, by the names of the interfaces. -/
def leases (s : Service) : List Lease :=
  s.interfaces.values.flatMap Interface.leases

/-- The first interface with the address in one of its subnets. -/
def interfaceFor (s : Service) (ip : IpAddr) : Except LeaseError (String × Interface) :=
  match s.interfaces.toList.find? fun (_, i) => i.serves ip with
  | some entry => .ok entry
  | none => .error (.invalidRequest (.unservedAddress ip))

/-- What the interface that serves an address says about it. -/
def lookAt {α : Type} (s : Service) (ip : IpAddr) (look : Interface → Option α) : Option α :=
  (s.interfaceFor ip).toOption.bind fun (_, i) => look i

/-- The lease for an address. -/
def leaseByIp (s : Service) (ip : IpAddr) : Option Lease :=
  s.lookAt ip (·.leaseByIp ip)

/-- The hostname of the client that holds an address, if it has one. -/
def hostByIp (s : Service) (ip : IpAddr) : Option String :=
  s.lookAt ip (·.hostByIp ip)

/-- The client that holds an address. -/
def hwByIp (s : Service) (ip : IpAddr) : Option HwAddr :=
  s.lookAt ip (·.hwByIp ip)

/-- The text before and the text after the last dot. -/
def splitLastDot (cs : List Char) : Option (List Char × List Char) :=
  match cs.reverse.span (· != '.') with
  | (_, []) => none
  | (after, _ :: before) => some (before.reverse, after.reverse)

/-- The hostname without the local domain at its end: what follows the last dot, in any case. -/
def stripDomain (domain hostname : String) : String :=
  -- a domain may be written with a dot at either end
  let domain := String.ofList (trimEnds (· == '.') domain.toList)
  if domain.isEmpty || hostname.utf8ByteSize ≤ domain.utf8ByteSize + 1 then hostname
  else
    match splitLastDot hostname.toList with
    | some (name, last) =>
      if !name.isEmpty && last.map Char.toLower = domain.toList.map Char.toLower then
        String.ofList name
      else hostname
    | none => hostname

/-- The first lease with a hostname, which may carry the local domain. -/
def leaseByHostname (s : Service) (hostname : String) : Option Lease :=
  let hostname := stripDomain s.config.localDomain hostname
  s.interfaces.values.findSome? (·.leaseByHostname hostname)

/-- The address of the client with a hostname. -/
def ipByHost (s : Service) (hostname : String) : Option IpAddr :=
  (s.leaseByHostname hostname).map (·.ip)

/-- The interval between the passes of a reaper over all interfaces. -/
def reapInterval (s : Service) : Duration :=
  Reaper.interval s.interfaces.values

/-- How deep allocations can be nested: each of them holds an address of its own. -/
def depth (s : Service) : Nat :=
  s.interfaces.values.foldl (fun n i => n + i.windowSize) 0

/-! ## Saving -/

/-- The entries of the lease file for the leases as they are. -/
def entries (s : Service) : List StoredLease :=
  s.interfaces.toList.flatMap fun (name, i) => i.leases.map (⟨name, ·⟩)

/-- Writes the lease file, if there is to be one. -/
def save (now : Nat) (s : Service) : Except LeaseError Unit × Service :=
  -- without a file nothing is ever out of date
  if s.config.leasesFile.isEmpty then (.ok (), { s with dirty := false })
  else
    match s.disk.writeText s.config.leasesFile (LeaseFile.render s.entries) with
    | none => (.error .inputOutput, s)
    | some disk => (.ok (), { s with disk, dirty := false, lastSave := some now })

/-- Whether the last write is long enough ago for another one. -/
def isSaveDue (now : Nat) (s : Service) : Bool :=
  s.lastSave.all fun last => s.config.saveIntervalMillis.toNat ≤ now - last

/-- Takes note of a change, if there was one, and writes the lease file if it is out of date and a
write is due. A write that fails is left for later. -/
def noteChange (now : Nat) (changed : Bool) (s : Service) : Service :=
  let s := { s with dirty := s.dirty || changed }
  if s.dirty && s.isSaveDue now then (s.save now).2 else s

/-! ## Starting -/

/-- The interfaces that a configuration describes, without leases. -/
def interfacesOf (c : Config) : SortedMap String Interface :=
  .ofList <| if !c.enabled then [] else
    (c.interfaces.toList.filter fun (_, i) => i.enabledV4.isSome || i.enabledV6.isSome).map
      fun (name, i) => (name, .ofConfig name i c.probeTimeoutMillis.toNat)

/-- Restores a stored lease. It is skipped if it has expired, if its interface is not there, or if
the interface does not take it. -/
def restoreEntry (now : Timestamp) (state : Nat × SortedMap String Interface) (e : StoredLease) :
    Nat × SortedMap String Interface :=
  match state.2.get? e.interface with
  | none => state
  | some i =>
    if e.lease.isExpiredAt now then state
    else
      match i.addLease e.lease with
      | (.ok _, i) => (state.1 + 1, state.2.insert e.interface i)
      | (.error _, _) => state

/-- Restores the leases of the lease file, if there is one, and says how many. -/
def restore (now : Nat) (s : Service) : Except LeaseError (Nat × Service) :=
  if s.config.leasesFile.isEmpty || !s.disk.hasPath s.config.leasesFile then .ok (0, s)
  else
    match s.disk.readText s.config.leasesFile with
    | none => .error .inputOutput
    | some text =>
      match LeaseFile.parse? text with
      | none => .error .unreadable
      | some entries =>
        let (count, interfaces) :=
          entries.foldl (restoreEntry (.ofMillis now)) (0, s.interfaces)
        .ok (count, { s with interfaces })

/-- Starts a service with the leases of its lease file, and says how many it has restored. -/
def start (now : Nat) (c : Config) (disk : Disk) : Except LeaseError (Nat × Service) := do
  c.validate.mapError .invalidConfig
  restore now ⟨c, interfacesOf c, disk, false, none, none⟩

/-! ## Changing -/

/-- The service with an interface in place of the one of the same name. -/
def setInterface (s : Service) (name : String) (i : Interface) : Service :=
  { s with interfaces := s.interfaces.insert name i }

/-- What follows a change of a lease: it is noted, if it was not refused. -/
def afterChange (now : Nat) (result : Except LeaseError Lease) (s : Service) : Service :=
  match result with
  | .ok _ => s.noteChange now true
  | .error _ => s

/-- Has the interface that serves an address change a lease. -/
def changeLease (now : Nat) (ip : IpAddr) (s : Service)
    (change : Interface → Except LeaseError Lease × Interface) :
    Except LeaseError Lease × Service :=
  match s.interfaceFor ip with
  | .error e => (.error e, s)
  | .ok (name, i) =>
    let (result, i) := change i
    (result, (s.setInterface name i).afterChange now result)

/-- Adds an operator's lease. -/
def addLease (now : Nat) (l : Lease) (s : Service) : Except LeaseError Lease × Service :=
  s.changeLease now l.ip (·.addLease l)

/-- Replaces a lease by another one on the same interface. -/
def editLease (now : Nat) (old new : Lease) (s : Service) : Except LeaseError Lease × Service :=
  s.changeLease now old.ip fun i =>
    if i.serves new.ip then i.editLease old new
    else (.error (.invalidRequest (.otherInterface new.ip i.name)), i)

/-- Removes a lease, which is found by its address and its client. -/
def removeLease (now : Nat) (l : Lease) (s : Service) : Except LeaseError Lease × Service :=
  s.changeLease now l.ip (·.removeLease l)

/-- Gives back a client's dynamic lease. -/
def release (now : Nat) (client : HwAddr) (ip : IpAddr) (s : Service) :
    Except LeaseError Lease × Service :=
  s.changeLease now ip (·.release client ip)

/-- Removes all leases and says how many there were. -/
def reset (now : Nat) (s : Service) : Nat × Service :=
  let count := s.leases.length
  let s := { s with interfaces := s.interfaces.mapValues fun (i : Interface) => i.reset.2 }
  (count, if count = 0 then s else s.noteChange now true)

/-- One reap pass as of a time, and says how many leases it removed. -/
def reapPass (now : Nat) (time : Timestamp) (s : Service) : Nat × Service :=
  let count := (Reaper.pass time s.interfaces.values).1
  let interfaces := s.interfaces.mapValues fun (i : Interface) => (i.reapExpired time).2
  let s := { s with interfaces }
  (count, s.noteChange now (0 < count))

/-! ## The background reaper -/

/-- Starts the background reaper, which makes its first pass at once. -/
def startReaper (now : Nat) (s : Service) : Service :=
  match s.nextPass with
  | some _ => s
  | none =>
    { (s.reapPass now (.ofMillis now)).2 with nextPass := some (now + s.reapInterval.toMillis) }

/-- Makes the passes of the background reaper that have fallen due. They are made at the same time,
so that one is as good as several; the next one is due at the next multiple of the interval. A timer
that lets its next tick wait after a late one would make it due an interval from now instead. What
holds of all runs of a service holds with either, since there may be a pass at any time in a run. -/
def passIfDue (now : Nat) (s : Service) : Service :=
  match s.nextPass with
  | none => s
  | some due =>
    if now < due then s
    else
      let interval := s.reapInterval.toMillis
      { (s.reapPass now (.ofMillis now)).2 with
        nextPass := some (due + interval * ((now - due) / interval + 1)) }

/-- Stops the background reaper and writes the lease file. -/
def shutdown (now : Nat) (s : Service) : Except LeaseError Unit × Service :=
  { s with nextPass := none }.save now

end Service

end DhcpLeasing
