import DhcpLeasing.Interface.Admin
import DhcpLeasing.Reply
import DhcpLeasing.Session

/-!
# Commands to an interface

Everything that can be asked of an interface, as data.
-/

namespace DhcpLeasing

/-- What a client asks for when its request comes in. The time to wait for an answer is counted from
then on, in milliseconds. -/
structure ClientRequest where
  client : HwAddr
  family : Family
  wanted : Option IpAddr
  hostname : Option String
  patience : Option Nat
  deriving DecidableEq, Repr

/-- The request as of a time on the clock. -/
def ClientRequest.at (now : Nat) (r : ClientRequest) : Request :=
  ⟨r.client, r.family, r.wanted, r.hostname, r.patience.map (now + ·)⟩

/-- A command to an interface. -/
inductive InterfaceCommand where
  | allocate (request : ClientRequest)
  | release (client : HwAddr) (ip : IpAddr)
  | addLease (l : Lease)
  | editLease (old new : Lease)
  | removeLease (l : Lease)
  | reset
  /-- Removes the leases that have expired at a time, or now. -/
  | reap (time : Option Timestamp)
  | leases
  | leaseByIp (ip : IpAddr)
  | leaseByHw (family : Family) (client : HwAddr)
  | leaseByHostname (hostname : String)
  | hostByIp (ip : IpAddr)
  | hwByIp (ip : IpAddr)
  | ipByHost (hostname : String)
  | serves (ip : IpAddr)
  | leaseDuration (family : Family)
  | name
  deriving DecidableEq, Repr

/-- How an allocation goes on. -/
def Progress.activity : Progress → Activity Unit Reply
  | done result => .replied (.lease result)
  | probing pending => .waiting () pending

namespace Interface

/-- The reply to a command that changes one lease. -/
def replyLease (change : Except LeaseError Lease × Interface) : Activity Unit Reply × Interface :=
  (.replied (.lease change.1), change.2)

/-- Carries out a command, up to the first probe of an allocation. -/
def submit (now : Nat) (command : InterfaceCommand) (i : Interface) :
    Activity Unit Reply × Interface :=
  match command with
  | .allocate request =>
    let (progress, i) := i.begin now (request.at now)
    (progress.activity, i)
  | .release client ip => replyLease (i.release client ip)
  | .addLease l => replyLease (i.addLease l)
  | .editLease old new => replyLease (i.editLease old new)
  | .removeLease l => replyLease (i.removeLease l)
  | .reset =>
    let (count, i) := i.reset
    (.replied (.number count), i)
  | .reap time =>
    let (reaped, i) := i.reapExpired (time.getD (.ofMillis now))
    (.replied (.leases reaped), i)
  | .leases => (.replied (.leases i.leases), i)
  | .leaseByIp ip => (.replied (.found (i.leaseByIp ip)), i)
  | .leaseByHw family client => (.replied (.found (i.leaseByHw family client)), i)
  | .leaseByHostname hostname => (.replied (.found (i.leaseByHostname hostname)), i)
  | .hostByIp ip => (.replied (.text (i.hostByIp ip)), i)
  | .hwByIp ip => (.replied (.text ((i.hwByIp ip).map HwAddr.toText)), i)
  | .ipByHost hostname => (.replied (.text ((i.ipByHost hostname).map IpAddr.toText)), i)
  | .serves ip => (.replied (.truth (i.serves ip)), i)
  | .leaseDuration family =>
    (.replied (.number ((i.leaseDuration? family).map Duration.toSeconds)), i)
  | .name => (.replied (.text (some i.name)), i)

end Interface

end DhcpLeasing
