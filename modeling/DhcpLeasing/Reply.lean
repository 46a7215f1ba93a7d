import DhcpLeasing.Error
import DhcpLeasing.Lease.Basic

/-!
# Replies

What comes back from a command, whoever carries it out.
-/

namespace DhcpLeasing

/-- A reply to a command. -/
inductive Reply where
  /-- A lease, or why there is none. -/
  | lease (result : Except LeaseError Lease)
  | leases (all : List Lease)
  | found (l : Option Lease)
  | text (s : Option String)
  | texts (all : List String)
  | number (n : Option Nat)
  | truth (b : Bool)
  | config (c : Config)
  | nothing
  | refused (e : LeaseError)
  /-- There is nobody to ask. -/
  | unattended

end DhcpLeasing
