import DhcpLeasing.Json.Basic

/-!
# JSON text, written

Two layouts: compact, without blanks, and indented, with one member or item on a line. Strings
escape what they must and nothing else.
-/

namespace DhcpLeasing.Json

/-- A lowercase hexadecimal digit. -/
private def hexDigit (n : Nat) : Char := Nat.digitChar (n % 16)

/-- How a character is written in a string: quotes, backslashes and controls are escaped. -/
def escapeChar (c : Char) : List Char :=
  if c = '"' ∨ c = '\\' then ['\\', c]
  else if c = '\n' then ['\\', 'n']
  else if c = '\r' then ['\\', 'r']
  else if c = '\t' then ['\\', 't']
  else if c.toNat = 8 then ['\\', 'b']
  else if c.toNat = 12 then ['\\', 'f']
  else if c.toNat < 0x20 then ['\\', 'u', '0', '0', hexDigit (c.toNat / 16), hexDigit c.toNat]
  else [c]

/-- A string between its quotes. -/
def renderString (s : String) : List Char :=
  '"' :: s.toList.flatMap escapeChar ++ ['"']

/-- A string or name. One that stands for no text is written as a lone half of a surrogate pair. -/
def renderContent : Option String → List Char
  | some s => renderString s
  | none => "\"\\ud800\"".toList

/-- A number as it is spelled. -/
def renderNumber (s : JsonNumber) : List Char :=
  (if s.negative then ['-'] else []) ++ s.whole ++
    (match s.fraction with
      | some digits => '.' :: digits
      | none => []) ++
    (match s.exponent with
      | some (negative, digits) => 'e' :: (if negative then ['-'] else []) ++ digits
      | none => [])

/-! ## Compact -/

mutual

/-- A value without blanks. -/
def renderCompact : Json → List Char
  | null => "null".toList
  | bool true => "true".toList
  | bool false => "false".toList
  | number spelling => renderNumber spelling
  | string content => renderContent content
  | array items => '[' :: renderItems items ++ [']']
  | object members => '{' :: renderMembers members ++ ['}']

/-- Items with commas between them. -/
def renderItems : List Json → List Char
  | [] => []
  | [item] => renderCompact item
  | item :: rest => renderCompact item ++ ',' :: renderItems rest

/-- Members with commas between them. -/
def renderMembers : List (Option String × Json) → List Char
  | [] => []
  | [(name, value)] => renderContent name ++ ':' :: renderCompact value
  | (name, value) :: rest =>
    renderContent name ++ ':' :: renderCompact value ++ ',' :: renderMembers rest

end

/-- The text of a value without blanks. -/
def compact (v : Json) : String :=
  String.ofList (renderCompact v)

/-! ## Indented -/

/-- A new line that starts with `depth` steps of two spaces. -/
def newLine (depth : Nat) : List Char :=
  '\n' :: List.replicate (2 * depth) ' '

mutual

/-- A value that starts on a line indented by `depth` steps. -/
def renderIndented (depth : Nat) : Json → List Char
  | null => "null".toList
  | bool true => "true".toList
  | bool false => "false".toList
  | number spelling => renderNumber spelling
  | string content => renderContent content
  | array [] => ['[', ']']
  | array (item :: rest) =>
    '[' :: newLine (depth + 1) ++ renderIndented (depth + 1) item ++
      renderItemLines (depth + 1) rest ++ newLine depth ++ [']']
  | object [] => ['{', '}']
  | object ((name, value) :: rest) =>
    '{' :: newLine (depth + 1) ++ renderContent name ++ [':', ' '] ++
      renderIndented (depth + 1) value ++ renderMemberLines (depth + 1) rest ++
      newLine depth ++ ['}']

/-- The items after the first, each on a line of its own. -/
def renderItemLines (depth : Nat) : List Json → List Char
  | [] => []
  | item :: rest => ',' :: newLine depth ++ renderIndented depth item ++ renderItemLines depth rest

/-- The members after the first, each on a line of its own. -/
def renderMemberLines (depth : Nat) : List (Option String × Json) → List Char
  | [] => []
  | (name, value) :: rest =>
    ',' :: newLine depth ++ renderContent name ++ [':', ' '] ++ renderIndented depth value ++
      renderMemberLines depth rest

end

/-- The text of a value with one member or item on a line. -/
def indented (v : Json) : String :=
  String.ofList (renderIndented 0 v)

end DhcpLeasing.Json
