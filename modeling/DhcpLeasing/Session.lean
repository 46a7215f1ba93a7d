import DhcpLeasing.Allocation

/-!
# Sessions

A session carries out commands one after another on a world that holds interfaces and a clock. A
command that allocates an address waits for probes, and a prober answers them. Probes take time, and
while one is under way the prober may have further commands carried out, allocations among them. A
deadline cuts a probe short, together with everything that was begun inside it.
-/

namespace DhcpLeasing

/-- What comes of a probe: how long the answer takes, the commands that are carried out meanwhile,
and the answer. -/
structure Reaction (C : Type) where
  busy : Bool
  delay : Nat
  meanwhile : List C
  deriving Repr

/-- A prober says what comes of the probe of an address, knowing which addresses were probed before,
the last one first. -/
def Prober (C : Type) : Type :=
  List IpAddr → IpAddr → Reaction C

/-- A prober that goes through a list of reactions for each address in the script and stays with the
last one. It has nothing to say about an address without reactions, and one reaction for all other
addresses. -/
def Prober.scripted {C : Type} (script : List (IpAddr × List (Reaction C))) (default : Reaction C) :
    Prober C :=
  fun probed ip =>
    match script.lookup ip with
    | some reactions => (reactions[probed.count ip]?.or reactions.getLast?).getD ⟨false, 0, []⟩
    | none => default

/-- The record of a probe: the answer, and what came of the commands meanwhile. Both are absent in a
probe that was cut short. -/
structure ProbeRecord (R : Type) where
  ip : IpAddr
  inUse : Option Bool
  meanwhile : Option (List R)
  deriving Repr

/-- What comes of a step of a command: the reply, or an allocation that waits for a probe. `K` is
what the world needs to know to go on with it. -/
inductive Activity (K R : Type) where
  | replied (reply : R)
  | waiting (key : K) (pending : Pending)

/-- What one interface does, in a world that knows the interface by a key. -/
def Activity.under {K R : Type} (key : K) : Activity Unit R → Activity K R
  | .replied reply => .replied reply
  | .waiting () pending => .waiting key pending

/-- A world in which commands of type `C` are carried out, with replies of type `R`. -/
structure World (W C K R : Type) where
  /-- The time on the clock. -/
  clock : W → Nat
  setClock : Nat → W → W
  /-- Carries out a command, up to the first probe of an allocation. -/
  submit : C → W → Activity K R × W
  /-- Goes on with the answer to a probe. -/
  resume : K → Pending → Bool → W → Activity K R × W
  /-- Ends an allocation whose deadline has passed. -/
  expire : K → Pending → W → R × W
  /-- Ends an allocation to which no reply is wanted any longer. -/
  withdraw : K → Pending → W → W

/-- A session in progress. Without a prober every probe finds its address free at once, and leaves
no record. -/
structure Session (W C R : Type) where
  world : W
  prober : Option (Prober C)
  /-- The addresses probed so far, the last one first. -/
  probed : List IpAddr
  /-- The records of the probes, in the order in which they were begun. -/
  log : List (ProbeRecord R)

namespace Session

variable {W C K R : Type}

/-! ## Deadlines -/

/-- Which deadline ends a wait from `now` until `wake`: of those before `wake` the one that passes
first, of equally early ones the innermost. Deadlines are listed from the inside out. Given are the
place of the deadline and the time when it takes effect. -/
def firstPassed (now wake : Nat) : (deadlines : List (Option Nat)) →
    Option (Fin deadlines.length × Nat)
  | [] => none
  | deadline :: outer =>
    let later := (firstPassed now wake outer).map fun (i, time) => (i.succ, time)
    match deadline with
    | none => later
    | some time =>
      if time < wake then
        -- one that has passed already takes effect at once
        let time := max now time
        match later with
        | some (i, earlier) => if earlier < time then some (i, earlier) else some (0, time)
        | none => some (0, time)
      else later

/-- Which deadline cuts a wait short. A wait of no time is never cut short. -/
def cutShort (now wait : Nat) (deadlines : List (Option Nat)) :
    Option (Fin deadlines.length × Nat) :=
  if wait = 0 then none else firstPassed now (now + wait) deadlines

/-! ## Carrying out commands

Below, `outer` are the deadlines of the allocations inside whose probes a command is carried out.
What ends without a reply is cut off by one of them. -/

/-- The session with another world. -/
def setWorld (s : Session W C R) (world : W) : Session W C R :=
  { s with world }

/-- The session after a probe has begun. -/
def beginProbe (s : Session W C R) (ip : IpAddr) : Session W C R :=
  { s with probed := ip :: s.probed, log := s.log ++ [⟨ip, none, none⟩] }

/-- The session after the probe with the given place in the log has been answered. -/
def endProbe (s : Session W C R) (place : Nat) (busy : Bool) (replies : List R) :
    Session W C R :=
  { s with log := s.log.modify place fun record =>
      { record with inUse := some busy, meanwhile := some replies } }

/-- Carries out commands in order, up to the one that is cut off. -/
def carryOutAll {ε : Type} (carryOut : C → Session W C R → Except ε R × Session W C R) :
    List C → Session W C R → Except ε (List R) × Session W C R
  | [], s => (.ok [], s)
  | c :: rest, s =>
    match carryOut c s with
    | (.error e, s) => (.error e, s)
    | (.ok reply, s) =>
      match carryOutAll carryOut rest s with
      | (.error e, s) => (.error e, s)
      | (.ok replies, s) => (.ok (reply :: replies), s)

/-- Probes an address: waits for the answer, at most for the probe timeout, and then has the
commands carried out that the prober brings along. -/
def probe (w : World W C K R) (outer : List (Option Nat))
    (carryOut : (deadlines : List (Option Nat)) → C → Session W C R →
      Except (Fin deadlines.length) R × Session W C R)
    (pending : Pending) (s : Session W C R) :
    Except (Fin (outer.length + 1)) Bool × Session W C R :=
  match s.prober with
  | none => (.ok false, s)
  | some prober =>
    let reaction := prober s.probed pending.ip
    let deadlines := pending.claim.request.deadline :: outer
    let place := s.log.length
    let s := s.beginProbe pending.ip
    let now := w.clock s.world
    let wait := min reaction.delay pending.claim.probeTimeout
    match cutShort now wait deadlines with
    | some (deadline, time) => (.error deadline, s.setWorld (w.setClock time s.world))
    | none =>
      let s := s.setWorld (w.setClock (now + wait) s.world)
      match carryOutAll (carryOut deadlines) reaction.meanwhile s with
      | (.error deadline, s) => (.error deadline, s)
      | (.ok replies, s) =>
        -- an answer after the probe timeout is none
        let busy := reaction.busy && reaction.delay ≤ pending.claim.probeTimeout
        (.ok busy, s.endProbe place busy replies)

/-- Follows an allocation up to its reply, through `probes` probes at most. -/
def follow {frames : Nat} (w : World W C K R)
    (probe : Pending → Session W C R → Except (Fin (frames + 1)) Bool × Session W C R) :
    (probes : Nat) → Activity K R → Session W C R → Except (Fin frames) R × Session W C R
  | _, .replied reply, s => (.ok reply, s)
  | 0, .waiting key pending, s =>
    let (reply, world) := w.expire key pending s.world
    (.ok reply, s.setWorld world)
  | probes + 1, .waiting key pending, s =>
    match probe pending s with
    | (.ok busy, s) =>
      let (activity, world) := w.resume key pending busy s.world
      follow w probe probes activity (s.setWorld world)
    -- the deadlines of a probe begin with that of its own allocation
    | (.error ⟨0, _⟩, s) =>
      let (reply, world) := w.expire key pending s.world
      (.ok reply, s.setWorld world)
    | (.error ⟨i + 1, h⟩, s) =>
      (.error ⟨i, Nat.lt_of_succ_lt_succ h⟩, s.setWorld (w.withdraw key pending s.world))

/-- Carries out a command. Allocations may be nested `depth` deep; below that, probes find their
address free at once. -/
def carryOut (w : World W C K R) : (depth : Nat) → (outer : List (Option Nat)) → C →
    Session W C R → Except (Fin outer.length) R × Session W C R
  | 0, _, c, s =>
    let (activity, world) := w.submit c s.world
    follow w (fun _ s => (.ok false, s)) Allocation.maxProbes activity (s.setWorld world)
  | depth + 1, outer, c, s =>
    let (activity, world) := w.submit c s.world
    follow w (probe w outer (carryOut w depth)) Allocation.maxProbes activity (s.setWorld world)

/-- Carries out a command that stands for itself, so that nothing can cut it off. -/
def run (w : World W C K R) (depth : Nat) (c : C) (s : Session W C R) : R × Session W C R :=
  match carryOut w depth [] c s with
  | (.ok reply, s) => (reply, s)
  | (.error i, _) => i.elim0

end Session

end DhcpLeasing
