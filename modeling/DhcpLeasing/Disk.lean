import DhcpLeasing.SortedMap

/-!
# Disks

What a deployment sees of a disk: the files it may read and write, and the directories that exist.
Directories come and go by other hands. A write succeeds as a whole or changes nothing.
-/

namespace DhcpLeasing

/-- What a file holds. -/
inductive FileContent where
  | text (s : String)
  /-- Bytes that are not UTF-8. -/
  | other (bytes : List UInt8)
  deriving DecidableEq, Repr

/-- The content made of bytes. -/
def FileContent.ofBytes (bytes : List UInt8) : FileContent :=
  match String.fromUTF8? ⟨bytes.toArray⟩ with
  | some s => text s
  | none => other bytes

/-- Files and directories by their paths, which are written without needless parts. -/
structure Disk where
  files : SortedMap String FileContent
  directories : List String
  deriving DecidableEq

namespace Disk

/-! ## Paths -/

/-- A path leads from the root or from the working directory, step by step. -/
structure Path where
  absolute : Bool
  steps : List (List Char)
  deriving DecidableEq, Repr

/-- The text of a path, `.` for the working directory. -/
def Path.toText (p : Path) : String :=
  let steps := String.ofList (['/'].intercalate p.steps)
  if p.absolute then "/" ++ steps else if p.steps.isEmpty then "." else steps

/-- The path that leads to where the last step of a path is taken. -/
def Path.parent (p : Path) : Path :=
  { p with steps := p.steps.dropLast }

/-- Whether a part of a path between slashes leads any further. -/
def isStep (part : List Char) : Bool :=
  !part.isEmpty && part != ['.']

/-- The path that a text stands for. -/
def Path.ofText (s : String) : Path where
  absolute := s.toList.head? == some '/'
  steps := (s.toList.splitOn '/').filter isStep

/-- The longest name of a file, in bytes. -/
def longestName : Nat := 255

/-- Whether the last part of a path can be the name of a file. -/
def endsInName (s : String) : Bool :=
  match (s.toList.splitOn '/').getLast? with
  | none => false
  | some part =>
    isStep part && part != ['.', '.'] && !part.contains '\x00' &&
      (String.ofList part).utf8ByteSize ≤ longestName

/-- What a path leads to. -/
inductive Place where
  /-- A file, which may be there or could be. -/
  | file (path : String)
  | directory
  | nowhere
  deriving DecidableEq, Repr

/-- Where a path leads. -/
def locate (d : Disk) (s : String) : Place :=
  let path := Path.ofText s
  if s.isEmpty then .nowhere
  else if d.directories.contains path.toText then .directory
  -- a file need not be there, but the directory that holds it must
  else if endsInName s && d.directories.contains path.parent.toText then .file path.toText
  else .nowhere

/-! ## Files -/

/-- A disk with files in the working directory only. Its parent and the root are there too. -/
def ofFiles (files : List (String × FileContent)) : Disk :=
  ⟨.ofList files, [".", "..", "/"]⟩

/-- The disk with a directory more. -/
def addDirectory (d : Disk) (s : String) : Disk :=
  { d with directories := (Path.ofText s).toText :: d.directories }

/-- The disk with a file at a path, if there can be one. -/
def addFile (d : Disk) (s : String) (content : FileContent) : Disk :=
  match d.locate s with
  | .file path => { d with files := d.files.insert path content }
  | _ => d

/-- Whether there is something at a path. -/
def hasPath (d : Disk) (s : String) : Bool :=
  match d.locate s with
  | .file path => d.files.contains path
  | .directory => true
  | .nowhere => false

/-- The text of the file at a path. -/
def readText (d : Disk) (s : String) : Option String :=
  match d.locate s with
  | .file path =>
    match d.files.get? path with
    | some (.text content) => some content
    | _ => none
  | _ => none

/-- Writes a text to the file at a path. -/
def writeText (d : Disk) (s : String) (content : String) : Option Disk :=
  match d.locate s with
  | .file path => some { d with files := d.files.insert path (.text content) }
  | _ => none

/-- Deletes the file at a path. -/
def delete (d : Disk) (s : String) : Option Disk :=
  match d.locate s with
  | .file path =>
    if d.files.contains path then some { d with files := d.files.erase path } else none
  | _ => none

end Disk

end DhcpLeasing
