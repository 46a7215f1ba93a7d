import DhcpLeasing.Interface.Basic
import DhcpLeasing.Time.Rfc3339

/-!
# Listings of leases

The leases of an interface as a table with one line for each.
-/

namespace DhcpLeasing.CommandLine

/-- A cell of a table: the text with blanks behind it up to the width of the column. -/
def cell (width : Nat) (text : String) : String :=
  String.ofList (text.toList ++ List.replicate (width - text.length) ' ')

/-- The widths of the columns. -/
def columnWidths : List Nat := [40, 28, 16, 24, 10]

/-- A line of the table, with a blank between two columns. -/
def tableLine (texts : List String) : String :=
  String.intercalate " " (List.zipWith cell columnWidths texts) ++ "\n"

/-- The headings of the columns. -/
def headings : List String :=
  ["IP Address", "Hardware Address", "Hostname", "Expires At", "Remaining"]

/-- The line under the headings. -/
def ruler : String :=
  let width := columnWidths.foldl (fun n width => n + width + 1) 0 - 1
  String.ofList (List.replicate width '-') ++ "\n"

/-- A time to the second. -/
def showTime (t : Timestamp) : String :=
  String.ofList (Timestamp.renderDate t.date ++ ' ' :: t.renderClock) ++ " UTC"

/-- What is left of a lease. -/
def showRemaining (seconds : Nat) : String :=
  if seconds = 0 then "expired" else String.ofList (Text.decimal seconds) ++ "s"

/-- The cells of a lease. -/
def leaseCells (now : Timestamp) (l : Lease) : List String :=
  [l.ip.toText, l.hwAddr.toText, l.hostname,
    (l.expiresAt.map showTime).getD "never",
    ((l.remainingSeconds now).map showRemaining).getD "static"]

/-- The listing of an interface. -/
def listing (now : Timestamp) (i : Interface) : String :=
  "[" ++ i.name ++ "]\n" ++
    if i.leases.isEmpty then "No active leases.\n"
    else
      tableLine headings ++ ruler ++
        String.join (i.leases.map fun l => tableLine (leaseCells now l))

end DhcpLeasing.CommandLine
