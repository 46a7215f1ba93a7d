import DhcpLeasing.Interface.Command
import DhcpLeasing.Service.Basic

/-!
# Commands to a service

A site is the place where a service runs: a clock, a disk and the configuration. The service may be
down, when it could not start; then commands about the file and the clock are all that is left. A
site is a world for sessions.
-/

namespace DhcpLeasing

/-- Where a service runs. While the service is up, the disk is in its hands. -/
structure Site where
  clock : Nat
  config : Config
  service : Except Disk Service

/-- A command to a site. Commands to an interface go past the service, which takes no note of what
they change. -/
inductive SiteCommand where
  | on (interface : String) (command : InterfaceCommand)
  | allocate (interface : String) (request : ClientRequest)
  | release (client : HwAddr) (ip : IpAddr)
  | addLease (l : Lease)
  | editLease (old new : Lease)
  | removeLease (l : Lease)
  | reset
  | leases
  | leaseByIp (ip : IpAddr)
  | leaseByHostname (hostname : String)
  | hostByIp (ip : IpAddr)
  | hwByIp (ip : IpAddr)
  | ipByHost (hostname : String)
  | names
  | config
  | save
  | reapInterval
  | reapPass (time : Option Timestamp)
  | startReaper
  | shutdown
  | advance (millis : Nat)
  | showFile
  | putFile (text : String)
  | deleteFile
  /-- A command that a service refuses without a look at its leases. -/
  | refuse (e : LeaseError)
  deriving DecidableEq, Repr

/-- What a site needs to know to go on with an allocation: the interface, and whether the service
takes note of the lease. -/
structure SiteKey where
  interface : String
  noted : Bool
  deriving DecidableEq, Repr

namespace Site

/-- The disk of the site. -/
def disk (site : Site) : Disk :=
  match site.service with
  | .ok s => s.disk
  | .error disk => disk

/-- The site with another disk. -/
def setDisk (disk : Disk) (site : Site) : Site :=
  { site with service := match site.service with
      | .ok s => .ok { s with disk }
      | .error _ => .error disk }

/-- The leases of the service, when it is up. -/
def leases (site : Site) : Option (List Lease) :=
  site.service.toOption.map Service.leases

/-- The text of the lease file, if there is one. -/
def fileText (site : Site) : Option String :=
  site.disk.readText site.config.leasesFile

/-- How deep allocations can be nested. -/
def depth (site : Site) : Nat :=
  (site.service.toOption.map Service.depth).getD 0

/-- Starts a service in place of the one that runs, which saves nothing and takes its reaper with
it. The reply is how many leases it restores. -/
def restart (site : Site) : Except LeaseError Nat × Site :=
  match Service.start site.clock site.config site.disk with
  | .ok (count, s) => (.ok count, { site with service := .ok s })
  | .error e => (.error e, { site with service := .error site.disk })

/-- Has the service do something, when it is up. -/
def withService {α : Type} (site : Site) (absent : α) (act : Service → α × Service) : α × Site :=
  match site.service with
  | .error _ => (absent, site)
  | .ok s =>
    let (result, s) := act s
    (result, { site with service := .ok s })

/-- The reply to a command that changes one lease. -/
def replyLease (change : Except LeaseError Lease × Service) : Activity SiteKey Reply × Service :=
  (.replied (.lease change.1), change.2)

/-- The reply to a command that may fail to write the file. -/
def replySaved (change : Except LeaseError Unit × Service) : Activity SiteKey Reply × Service :=
  match change with
  | (.ok (), s) => (.replied .nothing, s)
  | (.error e, s) => (.replied (.refused e), s)

/-- How a command to the service goes on with what an interface has done. -/
def follow (now : Nat) (key : SiteKey) (i : Interface) (s : Service) :
    Activity Unit Reply → Activity SiteKey Reply × Service
  | .waiting () pending => (.waiting key pending, s.setInterface key.interface i)
  | .replied reply =>
    let s := s.setInterface key.interface i
    -- only what goes through the service makes the file out of date
    match key.noted, reply with
    | true, .lease result => (.replied reply, s.afterChange now result)
    | _, _ => (.replied reply, s)

/-- Carries out a command on an interface of the service. -/
def submitOn (now : Nat) (key : SiteKey) (command : InterfaceCommand) (s : Service) :
    Activity SiteKey Reply × Service :=
  match s.interfaces.get? key.interface with
  | none => (.replied (.refused (.invalidRequest (.unknownInterface key.interface))), s)
  | some i =>
    let (activity, i) := i.submit now command
    follow now key i s activity

/-- Carries out a command to the service, up to the first probe of an allocation. -/
def submitService (now : Nat) (command : SiteCommand) (s : Service) :
    Activity SiteKey Reply × Service :=
  match command with
  | .on interface command => submitOn now ⟨interface, false⟩ command s
  | .allocate interface request => submitOn now ⟨interface, true⟩ (.allocate request) s
  | .release client ip => replyLease (s.release now client ip)
  | .addLease l => replyLease (s.addLease now l)
  | .editLease old new => replyLease (s.editLease now old new)
  | .removeLease l => replyLease (s.removeLease now l)
  | .reset =>
    let (count, s) := s.reset now
    (.replied (.number count), s)
  | .leases => (.replied (.leases s.leases), s)
  | .leaseByIp ip => (.replied (.found (s.leaseByIp ip)), s)
  | .leaseByHostname hostname => (.replied (.found (s.leaseByHostname hostname)), s)
  | .hostByIp ip => (.replied (.text (s.hostByIp ip)), s)
  | .hwByIp ip => (.replied (.text ((s.hwByIp ip).map HwAddr.toText)), s)
  | .ipByHost hostname => (.replied (.text ((s.ipByHost hostname).map IpAddr.toText)), s)
  | .names => (.replied (.texts s.interfaces.keys), s)
  | .config => (.replied (.config s.config), s)
  | .save => replySaved (s.save now)
  | .reapInterval => (.replied (.number s.reapInterval.toMillis), s)
  | .reapPass time =>
    let (count, s) := s.reapPass now (time.getD (.ofMillis now))
    (.replied (.number count), s)
  | .startReaper => (.replied .nothing, s.startReaper now)
  | .shutdown => replySaved (s.shutdown now)
  | .refuse e => (.replied (.refused e), s)
  | _ => (.replied .unattended, s)

/-- Carries out a command, up to the first probe of an allocation. -/
def submit (command : SiteCommand) (site : Site) : Activity SiteKey Reply × Site :=
  match command with
  | .advance millis =>
    let now := site.clock + millis
    (.replied .nothing,
      { site with clock := now, service := site.service.map fun s => s.passIfDue now })
  | .showFile => (.replied (.text site.fileText), site)
  | .putFile text =>
    match site.disk.writeText site.config.leasesFile text with
    | some disk => (.replied (.text (some text)), site.setDisk disk)
    | none => (.replied (.refused .inputOutput), site)
  | .deleteFile =>
    match site.disk.delete site.config.leasesFile with
    | some disk => (.replied .nothing, site.setDisk disk)
    | none => (.replied (.refused .inputOutput), site)
  | .startReaper =>
    -- the first pass takes a millisecond
    let (activity, site) :=
      site.withService (.replied .unattended) (submitService site.clock command)
    (activity, { site with clock := if site.service.isOk then site.clock + 1 else site.clock })
  | command => site.withService (.replied .unattended) (submitService site.clock command)

/-- A site as a world for sessions. -/
def world : World Site SiteCommand SiteKey Reply where
  clock := Site.clock
  setClock time site := { site with clock := time }
  submit := submit
  resume key pending busy site :=
    site.withService (.replied .unattended) fun s =>
      match s.interfaces.get? key.interface with
      | none => (.replied .unattended, s)
      | some i =>
        let (progress, i) := i.resume site.clock pending busy
        follow site.clock key i s progress.activity
  expire key pending site :=
    site.withService .unattended fun s =>
      match s.interfaces.get? key.interface with
      | none => (.unattended, s)
      | some i => (.lease (.error .timeout), s.setInterface key.interface (i.abandon pending))
  withdraw key pending site :=
    (site.withService () fun s =>
      match s.interfaces.get? key.interface with
      | none => ((), s)
      | some i => ((), s.setInterface key.interface (i.abandon pending))).2

end Site

end DhcpLeasing
