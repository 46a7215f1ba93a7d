import DhcpLeasing.Text.PrintTable

/-!
# Quoted text

How messages show a text they did not choose: between double quotes, with quotes, backslashes and
everything that would not be seen written as an escape.
-/

namespace DhcpLeasing.Text

/-- A character by its code point, in hexadecimal between braces. -/
def escapePoint (c : Char) : List Char :=
  ['\\', 'u', '{'] ++ Nat.toDigits 16 c.toNat ++ ['}']

/-- How a character is written between quotes. -/
def quoteChar (c : Char) : List Char :=
  if c = '"' ∨ c = '\\' then ['\\', c]
  else if c = '\n' then ['\\', 'n']
  else if c = '\r' then ['\\', 'r']
  else if c = '\t' then ['\\', 't']
  else if c.toNat = 0 then ['\\', '0']
  else if isGraphemeExtend c || !isPrintable c then escapePoint c
  else [c]

/-- The text between double quotes, with its special characters escaped. -/
def quoted (s : String) : String :=
  String.ofList ('"' :: s.toList.flatMap quoteChar ++ ['"'])

end DhcpLeasing.Text
