import DhcpLeasing.Interface.Command
import DhcpLeasing.Reaper

/-!
# Fleets of interfaces

Interfaces side by side, with one clock and one reaper, as a world for sessions.
-/

namespace DhcpLeasing

/-- Interfaces, the time on the clock in milliseconds, and the reaper's interval. Somebody listens
to the reaper and is told after each pass how many leases it removed. -/
structure Fleet where
  interfaces : List Interface
  clock : Nat
  reapInterval : Duration
  /-- What the listener was told, in order. -/
  passes : List Nat
  deriving DecidableEq

/-- A command to a fleet. -/
inductive FleetCommand where
  /-- A command to the interface at a place. -/
  | on (place : Nat) (command : InterfaceCommand)
  | advance (millis : Nat)
  | reapInterval
  /-- A pass as of a time, or now. -/
  | reapPass (time : Option Timestamp)
  /-- A command that is refused without a look at the fleet. -/
  | refuse (e : LeaseError)
  deriving DecidableEq, Repr

namespace Fleet

/-- A fleet at a time. An interval for the reaper may be chosen. -/
def ofInterfaces (interfaces : List Interface) (clock : Nat) (chosen : Option Duration) :
    Fleet where
  interfaces := interfaces
  clock := clock
  reapInterval := (chosen.map Reaper.chosenInterval).getD (Reaper.interval interfaces)
  passes := []

/-- The leases of all interfaces. -/
def leases (f : Fleet) : List Lease :=
  f.interfaces.flatMap Interface.leases

/-- How deep allocations can be nested: each of them holds an address of its own. -/
def depth (f : Fleet) : Nat :=
  f.interfaces.foldl (fun n i => n + i.windowSize) 0

/-- Has the interface at a place do something. -/
def withInterface {α : Type} (place : Nat) (f : Fleet) (absent : α)
    (act : Interface → α × Interface) : α × Fleet :=
  match f.interfaces[place]? with
  | none => (absent, f)
  | some i =>
    let (result, i) := act i
    (result, { f with interfaces := f.interfaces.set place i })

/-- Carries out a command, up to the first probe of an allocation. -/
def submit (command : FleetCommand) (f : Fleet) : Activity Nat Reply × Fleet :=
  match command with
  | .on place command =>
    f.withInterface place (.replied .unattended) fun i =>
      let (activity, i) := i.submit f.clock command
      (activity.under place, i)
  | .advance millis => (.replied .nothing, { f with clock := f.clock + millis })
  | .reapInterval => (.replied (.number f.reapInterval.toMillis), f)
  | .reapPass time =>
    let (count, interfaces) := Reaper.pass (time.getD (.ofMillis f.clock)) f.interfaces
    (.replied (.number count), { f with interfaces, passes := f.passes ++ [count] })
  | .refuse e => (.replied (.refused e), f)

/-- A fleet as a world for sessions. -/
def world : World Fleet FleetCommand Nat Reply where
  clock := Fleet.clock
  setClock time f := { f with clock := time }
  submit := submit
  resume place pending busy f :=
    f.withInterface place (.replied .unattended) fun i =>
      let (progress, i) := i.resume f.clock pending busy
      (progress.activity.under place, i)
  expire place pending f :=
    f.withInterface place .unattended fun i => (.lease (.error .timeout), i.abandon pending)
  withdraw place pending f := (f.withInterface place () fun i => ((), i.abandon pending)).2

end Fleet

end DhcpLeasing
