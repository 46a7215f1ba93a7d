import DhcpLeasing.Text.Blank
import DhcpLeasing.Text.Lowercase

/-!
# Hostnames

Hostnames are lowercase labels with dots between them. An operator's hostname is checked; a client's
is repaired. Both end up with the same kind of name.
-/

namespace DhcpLeasing

open Text

/-- What can be wrong with an operator's hostname. -/
inductive HostnameFault where
  | tooLong (name : String)
  | badLabel (name label : String)
  deriving DecidableEq, Repr

namespace Hostname

/-- The most bytes in a hostname. -/
def longestName : Nat := 253

/-- The most characters in a label. -/
def longestLabel : Nat := 63

/-- A character of a label: an ASCII letter or digit, or a hyphen. -/
def isLabelChar (c : Char) : Bool :=
  c.isAlphanum || c == '-'

/-- A label: up to 63 letters, digits and hyphens, with no hyphen at either end. -/
def isLabel (label : List Char) : Bool :=
  !label.isEmpty && label.length ≤ longestLabel && label.head? != some '-' &&
    label.getLast? != some '-' && label.all isLabelChar

/-- Checks an operator's hostname and puts it into lowercase. There may be none. -/
def validate (text : String) : Except HostnameFault String :=
  let name := lowercase (trim text)
  if name.isEmpty then .ok name
  -- the length is in bytes, since there may still be any characters in it
  else if longestName < name.utf8ByteSize then .error (.tooLong name)
  else
    match (name.toList.splitOn '.').find? fun label => !isLabel label with
    | some label => .error (.badLabel name (String.ofList label))
    | none => .ok name

/-- What is kept of a label: hyphens stand for the characters it may not have, and those at its ends
are dropped. -/
def sanitizeLabel (label : List Char) : List Char :=
  trimEnds (· == '-') ((label.map fun c => if c.isAlphanum then c else '-').take longestLabel)

/-- The hostname that can be made of a client's, if anything usable is left of it. -/
def sanitize (text : String) : Option String :=
  let labels := ((lowercase (trim text)).toList.splitOn '.').map sanitizeLabel
  let name := String.ofList (['.'].intercalate (labels.filter (!·.isEmpty)))
  if name.isEmpty || longestName < name.utf8ByteSize then none else some name

end Hostname

end DhcpLeasing
