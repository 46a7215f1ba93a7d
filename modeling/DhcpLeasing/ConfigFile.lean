import DhcpLeasing.Config.Json
import DhcpLeasing.Disk
import DhcpLeasing.Error
import DhcpLeasing.Json.Printer
import DhcpLeasing.Json.Reader

/-!
# Configuration files

A configuration is read from a file. Where there is none, the default configuration is written.
-/

namespace DhcpLeasing.ConfigFile

/-- The text of a configuration file. -/
def render (c : Config) : String :=
  Json.indented c.toJson

/-- The configuration of a configuration file. -/
def parse? (text : String) : Option Config :=
  (Json.ofText? text).bind Config.ofJson?

/-- Writes a configuration to the file at a path. -/
def save (path : String) (c : Config) (disk : Disk) : Except LeaseError Disk :=
  match disk.writeText path (render c) with
  | some disk => .ok disk
  | none => .error .inputOutput

/-- The configuration of the file at a path, which is checked. If there is no file, one is made with
the default configuration. -/
def loadOrCreate (path : String) (disk : Disk) : Except LeaseError (Config × Disk) :=
  if disk.hasPath path then
    match disk.readText path with
    | none => .error .inputOutput
    | some text =>
      match parse? text with
      | none => .error .unreadable
      | some c => do
        c.validate.mapError .invalidConfig
        return (c, disk)
  else do
    let disk ← save path .default disk
    return (.default, disk)

end DhcpLeasing.ConfigFile
