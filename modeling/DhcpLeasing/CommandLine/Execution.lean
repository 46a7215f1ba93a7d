import DhcpLeasing.CommandLine.Arguments
import DhcpLeasing.CommandLine.Listing
import DhcpLeasing.ConfigFile
import DhcpLeasing.Service.Basic

/-!
# Commands of the command line

What a command does to the disk, what it prints, and its exit code. What is said about a failure, on
the standard error stream, is told in words of its own: that something is said there is part of the
program, and the wording is left to whatever runs it and parses its arguments.
-/

namespace DhcpLeasing.CommandLine

/-- What comes of a command. -/
structure Outcome where
  exitCode : UInt32
  /-- What is printed. -/
  output : String
  /-- What is said about a failure, not word for word. -/
  complaint : String
  disk : Disk
  /-- The service that is to be kept running until it is told to stop. -/
  serving : Option Service
  deriving DecidableEq

/-- The outcome of a command that is done when it has printed something. -/
def Outcome.printed (output : String) (disk : Disk) : Outcome :=
  ⟨0, output, "", disk, none⟩

/-- The outcome of a command that fails. What is said is the message of the error, where the program
would show the whole value that it ends with. -/
def Outcome.failed (e : LeaseError) (disk : Disk) : Outcome :=
  ⟨1, "", e.message ++ "\n", disk, none⟩

/-- The name and the version of the program. -/
def versionLine : String := "gatelease 0.1.0\n"

/-- How the program is used. -/
def helpText : String :=
  "DHCP lease management for dual-stack interfaces\n\n" ++
  "Usage: gatelease [OPTIONS] [COMMAND]\n\n" ++
  "Commands:\n" ++
  "  run             \n" ++
  "  show-config     \n" ++
  "  list-leases     \n" ++
  "  cleanup-leases  \n" ++
  "  help            Print this message or the help of the given subcommand(s)\n\n" ++
  "Options:\n" ++
  "  -c, --config <CONFIG>        [default: config.json]\n" ++
  "  -l, --log-level <LOG_LEVEL>  [default: info]\n" ++
  "  -h, --help                   Print help\n" ++
  "  -V, --version                Print version\n"

/-- What is said about arguments that make no sense: how the program is used, and nothing about
which of them is wrong. -/
def misuseText : String :=
  "Usage: gatelease [OPTIONS] [COMMAND]\n"

/-- Carries out a command with the configuration it needs. -/
def perform (now : Nat) (command : Command) (c : Config) (disk : Disk) :
    Except LeaseError Outcome := do
  match command with
  | .showConfig => return .printed (ConfigFile.render c ++ "\n") disk
  | .listLeases =>
    let (_, s) ← Service.start now c disk
    return .printed (String.join (s.interfaces.values.map (listing (.ofMillis now)))) s.disk
  | .cleanupLeases =>
    let (_, s) ← Service.start now c disk
    let (_, s) := s.reapPass now (.ofMillis now)
    match s.save now with
    | (.error e, _) => throw e
    | (.ok (), s) =>
      let count := String.ofList (Text.decimal s.leases.length)
      return .printed ("Cleaned up expired leases, " ++ count ++ " active lease(s) remain.\n") s.disk
  | .run =>
    let (_, s) ← Service.start now c disk
    let s := s.startReaper now
    return { Outcome.printed "" s.disk with serving := some s }

/-- Does what the arguments ask for. If a command fails, nothing is printed. -/
def execute (now : Nat) (arguments : List String) (disk : Disk) : Outcome :=
  match demand arguments with
  | .version => .printed versionLine disk
  | .help => .printed helpText disk
  | .misuse => ⟨2, "", misuseText, disk, none⟩
  | .command command path =>
    match ConfigFile.loadOrCreate path disk with
    | .error e => .failed e disk
    | .ok (c, disk) =>
      match perform now command c disk with
      | .error e => .failed e disk
      | .ok outcome => outcome

end DhcpLeasing.CommandLine
