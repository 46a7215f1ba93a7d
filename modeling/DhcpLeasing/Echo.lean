import DhcpLeasing.Address.Basic

/-!
# Echo messages

The ICMP messages that a probe sends and waits for. A host that holds an address answers an echo
request with an echo reply.
-/

namespace DhcpLeasing.Echo

/-- The type of an echo request. -/
def requestType : Family → UInt8
  | .v4 => 8
  | .v6 => 128

/-- The type of an echo reply. -/
def replyType : Family → UInt8
  | .v4 => 0
  | .v6 => 129

/-- What a request carries and a reply gives back. -/
def payload : List UInt8 :=
  "gatelease-probe".toUTF8.toList

/-- The two bytes of a word, the high one first. -/
def wordBytes (w : UInt16) : List UInt8 :=
  [(w >>> 8).toUInt8, w.toUInt8]

/-! ## Checksum -/

/-- The sum of the 16-bit words of a message; a last odd byte is the high byte of a word. -/
def wordSum : List UInt8 → UInt32
  | [] => 0
  | [high] => high.toUInt32 <<< 8
  | high :: low :: rest => (high.toUInt32 <<< 8 ||| low.toUInt32) + wordSum rest

/-- Adds what has run over 16 bits to the low end, until nothing runs over. -/
def foldCarries (sum : UInt32) : UInt32 :=
  if sum >>> 16 = 0 then sum else foldCarries ((sum &&& (0xffff : UInt32)) + sum >>> 16)
termination_by sum.toNat
decreasing_by
  rename_i h
  have hhigh : (sum >>> 16).toNat = sum.toNat / 2 ^ 16 := by
    simp [UInt32.toNat_shiftRight, Nat.shiftRight_eq_div_pow]
  have hlow : (sum &&& 0xffff).toNat = sum.toNat % 2 ^ 16 := by
    simpa using Nat.and_two_pow_sub_one_eq_mod sum.toNat 16
  have hne : sum.toNat / 2 ^ 16 ≠ 0 := fun h0 =>
    h (UInt32.toNat_inj.1 (by simpa using hhigh.trans h0))
  rw [UInt32.toNat_add, hhigh, hlow]
  -- each carry counts 65536 before it is folded in, and one after
  refine Nat.lt_of_le_of_lt (Nat.mod_le _ _) ?_
  omega

/-- The Internet checksum: the complement of the one's-complement sum of the words. -/
def checksum (message : List UInt8) : UInt16 :=
  ~~~(foldCarries (wordSum message)).toUInt16

/-! ## Messages -/

/-- An echo request for an address. For IPv6 the checksum is left to whoever sends it, since it also
covers the addresses. -/
def request (ip : IpAddr) (identifier sequence : UInt16) : List UInt8 :=
  let start := [requestType ip.family, 0]
  let rest := wordBytes identifier ++ wordBytes sequence ++ payload
  match ip.family with
  -- the checksum is that of the message with zeros in its place
  | .v4 => start ++ wordBytes (checksum (start ++ [0, 0] ++ rest)) ++ rest
  | .v6 => start ++ [0, 0] ++ rest

/-- Where an ICMP message begins in what was received: after the IPv4 header, if there is one. -/
def messageStart : List UInt8 → Nat
  | [] => 0
  | first :: _ => if first >>> 4 = 4 then (first &&& 0xf).toNat * 4 else 0

/-- Whether what was received from an address is an echo reply. -/
def isReply (ip : IpAddr) (received : List UInt8) : Bool :=
  match ip.family with
  | .v4 => received[messageStart received]? == some (replyType .v4)
  | .v6 => received.head? == some (replyType .v6)

end DhcpLeasing.Echo
