import DhcpLeasing.Text.Blank
import DhcpLeasing.Text.Digits
import DhcpLeasing.Time.Timestamp

/-!
# RFC 3339 text

Times as `2023-11-14T22:13:20.5Z`. Written are UTC and the shortest of no, three, six and nine
fraction digits that is exact; years outside 0000 to 9999 carry a sign. Read is more: any offset
below a day, `t` or a space for the `T`, blanks around the numbers, and any number of fraction
digits, of which nine count.
-/

namespace DhcpLeasing.Timestamp

open Text

/-! ## Writing -/

/-- A year in four digits at least, with a sign if it has no four-digit form. -/
def renderYear (year : Int) : List Char :=
  if 0 ≤ year ∧ year ≤ 9999 then decimalPadded 4 year.toNat
  else (if year < 0 then '-' else '+') :: decimalPadded 4 year.natAbs

/-- A date as year, month and day. -/
def renderDate (date : Date) : List Char :=
  renderYear date.year ++ '-' :: decimalPadded 2 date.month ++ '-' :: decimalPadded 2 date.day

/-- The time of day. A leap second is the sixtieth of its minute. -/
def renderClock (t : Timestamp) : List Char :=
  let n := t.secondOfDay
  let leap := if Duration.second ≤ t.nanos then 1 else 0
  decimalPadded 2 (n / 3600) ++ ':' :: decimalPadded 2 (n / 60 % 60) ++
    ':' :: decimalPadded 2 (n % 60 + leap)

/-- The fraction of a second, left out when it is zero. -/
def renderFraction (nanos : Nat) : List Char :=
  if nanos = 0 then []
  else if nanos % 1000000 = 0 then '.' :: decimalPadded 3 (nanos / 1000000)
  else if nanos % 1000 = 0 then '.' :: decimalPadded 6 (nanos / 1000)
  else '.' :: decimalPadded 9 nanos

/-- The text of a time, as characters. -/
def render (t : Timestamp) : List Char :=
  renderDate t.date ++ 'T' :: renderClock t ++ renderFraction (t.nanos % Duration.second) ++ ['Z']

/-- The text of a time. -/
def toText (t : Timestamp) : String :=
  String.ofList t.render

/-! ## Reading -/

/-- The digits at the head of a text, `most` of them at most, and the rest. -/
def takeDigits (most : Nat) (cs : List Char) : List Char × List Char :=
  let digits := (cs.takeWhile Char.isDigit).take most
  (digits, cs.drop digits.length)

/-- Reads a number of one to `most` digits after any blanks. -/
def readNumber (most : Nat) (cs : List Char) : Option (Nat × List Char) :=
  match takeDigits most (cs.dropWhile isBlank) with
  | ([], _) => none
  | (digits, rest) => some (ofDecimal digits, rest)

/-- Reads all the digits that follow a sign. -/
def readSigned (sign : Int) (cs : List Char) : Option (Int × List Char) :=
  match takeDigits cs.length cs with
  | ([], _) => none
  | (digits, rest) => some (sign * ofDecimal digits, rest)

/-- Reads a year after any blanks: up to four digits, or any number of them after a sign. -/
def readYear (cs : List Char) : Option (Int × List Char) :=
  match cs.dropWhile isBlank with
  | '-' :: rest => readSigned (-1) rest
  | '+' :: rest => readSigned 1 rest
  | _ => (readNumber 4 cs).map fun (n, rest) => ((n : Int), rest)

/-- Reads a given character after any blanks. -/
def readMark (mark : Char) (cs : List Char) : Option (List Char) :=
  match cs.dropWhile isBlank with
  | c :: rest => if c = mark then some rest else none
  | [] => none

/-- Reads the fraction of a second, if there is one, as nanoseconds. -/
def readFraction : List Char → Option (Nat × List Char)
  | '.' :: cs =>
    match takeDigits 9 cs with
    | ([], _) => none
    | (digits, rest) =>
      some (ofDecimal (digits ++ List.replicate (9 - digits.length) '0'),
        rest.dropWhile Char.isDigit)
  | cs => some (0, cs)

/-- Reads two digits. -/
def readPair : List Char → Option (Nat × List Char)
  | a :: b :: rest => if a.isDigit && b.isDigit then some (ofDecimal [a, b], rest) else none
  | _ => none

/-- Reads hours and minutes after a sign, as seconds. Colons and blanks may stand between them. -/
def readHoursMinutes (cs : List Char) : Option (Int × List Char) := do
  let (hours, cs) ← readPair cs
  let (minutes, cs) ← readPair (cs.dropWhile fun c => c == ':' || isBlank c)
  guard (minutes < 60)
  return (hours * 3600 + minutes * 60, cs)

/-- Reads the offset from UTC in seconds. -/
def readOffset (cs : List Char) : Option (Int × List Char) :=
  match cs with
  | 'Z' :: rest => some (0, rest)
  | 'z' :: rest => some (0, rest)
  | '+' :: rest => readHoursMinutes rest
  | '-' :: rest => (readHoursMinutes rest).map fun (n, rest) => (-n, rest)
  | '−' :: rest => (readHoursMinutes rest).map fun (n, rest) => (-n, rest)
  | a :: b :: c :: rest =>
    if [a, b, c].map Char.toLower = ['u', 't', 'c'] then some (0, rest) else none
  | _ => none

/-- Whether a year can be written. -/
def inCalendar (year : Int) : Bool :=
  Date.firstYear ≤ year && year ≤ Date.lastYear

/-- The time of a date, a time of day and an offset, if there is such a time. Second 60 is a leap
second. -/
def ofFields? (date : Date) (hour minute second nanos : Nat) (offset : Int) : Option Timestamp := do
  guard (inCalendar date.year && date.isValid)
  guard (hour < 24 && minute < 60 && second ≤ 60 && offset.natAbs < 86400)
  -- a leap second counts on from the second before it
  let clock := hour * 3600 + minute * 60 + min second 59
  let t : Timestamp :=
    ⟨date.toDays * 86400 + clock - offset, if second = 60 then Duration.second + nanos else nanos⟩
  -- the offset may have led out of the calendar
  guard (inCalendar t.date.year)
  return t

/-- Reads a time that makes up the whole text, blanks at its ends apart. -/
def read (cs : List Char) : Option Timestamp := do
  let (year, cs) ← readYear cs
  let (month, cs) ← readNumber 2 (← readMark '-' cs)
  let (day, cs) ← readNumber 2 (← readMark '-' cs)
  let cs ← match cs with
    | c :: rest => if c = 'T' ∨ c = 't' ∨ c = ' ' then some rest else none
    | [] => none
  let (hour, cs) ← readNumber 2 cs
  let (minute, cs) ← readNumber 2 (← readMark ':' cs)
  let (second, cs) ← readNumber 2 (← readMark ':' cs)
  let (nanos, cs) ← readFraction cs
  let (offset, cs) ← readOffset (cs.dropWhile isBlank)
  guard (cs.dropWhile isBlank).isEmpty
  ofFields? ⟨year, month, day⟩ hour minute second nanos offset

/-- The time that a text stands for. -/
def ofText? (s : String) : Option Timestamp :=
  read s.toList

end DhcpLeasing.Timestamp
