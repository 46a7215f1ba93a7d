import DhcpLeasing.CommandLine.Execution
import Std.Async.Signal
import Std.Time.DateTime.Timestamp

/-!
# The program

Gathers the files that a command may look at, has the command carried out, and puts the files that
it has changed where they belong. A service is kept running until it is interrupted.
-/

namespace DhcpLeasing.Program

open CommandLine

/-- The milliseconds since the beginning of 1970. -/
def readClock : IO Nat := do
  return (← Std.Time.Timestamp.now).toMillisecondsSinceUnixEpoch.toInt.toNat

/-- Whether a path leads to something. -/
def isThere (path : String) : IO Bool := do
  return (← (IO.FS.realPath path).toBaseIO).isOk

/-- Whether a path leads to a directory. -/
def isDirectory (path : String) : IO Bool :=
  isThere (path ++ "/.")

/-- What is in the file at a path. A file that cannot be read is not text. -/
def readContent (path : String) : IO FileContent := do
  match ← (IO.FS.readBinFile path).toBaseIO with
  | .ok bytes => return .ofBytes bytes.toList
  | .error _ => return .other []

/-- The disk with what is found at a path. -/
def gather (path : String) (disk : Disk) : IO Disk := do
  if path.isEmpty then
    return disk
  else if ← isDirectory path then
    return disk.addDirectory path
  else
    let around := (Disk.Path.ofText path).parent.toText
    let disk := if ← isDirectory around then disk.addDirectory around else disk
    if ← isThere path then return disk.addFile path (← readContent path) else return disk

/-- The disk that a command needs: the configuration, and the lease file that it names. -/
def gatherFor (arguments : List String) : IO Disk := do
  match demand arguments with
  | .command _ path =>
    let disk ← gather path (.ofFiles [])
    match ConfigFile.loadOrCreate path disk with
    | .ok (c, _) => gather c.leasesFile disk
    | .error _ => return disk
  | _ => return .ofFiles []

/-- Writes the texts that have changed. -/
def putBack (old new : Disk) : IO Unit := do
  for (path, content) in new.files.toList do
    unless old.files.get? path = some content do
      if let .text s := content then
        IO.FS.writeFile path s

/-- Keeps a service running until the task is finished. -/
partial def serve (interrupted : Std.Async.AsyncTask Int) (s : Service) : IO Unit := do
  if ← IO.hasFinished interrupted then
    putBack s.disk (s.shutdown (← readClock)).2.disk
  else
    let next := s.passIfDue (← readClock)
    putBack s.disk next.disk
    IO.sleep 200
    serve interrupted next

end DhcpLeasing.Program

open DhcpLeasing Program in
/-- Does what the arguments ask for. -/
def main (arguments : List String) : IO UInt32 := do
  let disk ← gatherFor arguments
  let outcome := CommandLine.execute (← readClock) arguments disk
  putBack disk outcome.disk
  IO.print outcome.output
  IO.eprint outcome.complaint
  if let some s := outcome.serving then
    let waiter ← Std.Async.Signal.Waiter.mk .sigint false
    serve (← waiter.wait) s
  return outcome.exitCode
