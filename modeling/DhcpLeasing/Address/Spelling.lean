import DhcpLeasing.Address.Grouped

/-!
# Text of addresses of either family
-/

namespace DhcpLeasing.IpAddr

/-- The text of an address. -/
def toText : IpAddr → String
  | v4 a => a.toText
  | v6 a => a.toText

/-- The address that a text stands for, whose form shows the family. -/
def ofText? (s : String) : Option IpAddr :=
  match Ipv4.ofText? s with
  | some a => some (v4 a)
  | none => (Ipv6.ofText? s).map v6

end DhcpLeasing.IpAddr
