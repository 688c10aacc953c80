import Ipv4Router.Ipv4Address
import Ipv4Router.MacAddress
import Ipv4Router.PacketError

/-!
# ARP packets

An ARP packet asks for, or tells, the hardware address that belongs to an IPv4
address.  Its form is 28 octets long.  Only packets between Ethernet and IPv4
are known, and of those only requests and replies.
-/

namespace Ipv4Router

inductive ArpOperation
  | request
  | reply
  deriving DecidableEq

namespace ArpOperation

def code : ArpOperation → UInt16
  | request => 1
  | reply => 2

def ofCode? (code : UInt16) : Option ArpOperation :=
  if code = 1 then some request
  else if code = 2 then some reply
  else none

@[simp]
theorem ofCode?_code (operation : ArpOperation) : ofCode? operation.code = some operation := by
  cases operation <;> rfl

end ArpOperation

/-- An ARP packet between Ethernet and IPv4. -/
structure ArpPacket where
  operation : ArpOperation
  sourceMac : MacAddress
  sourceAddress : Ipv4Address
  targetMac : MacAddress
  targetAddress : Ipv4Address
  deriving DecidableEq

namespace ArpPacket

def length : Nat := 28

/-- The words for Ethernet and IPv4 and the lengths of their addresses, with which
every known packet starts. -/
def preamble : Octets :=
  Octets.ofWord 1 ++ Octets.ofWord 0x0800 ++ [6, 4]

def toOctets (packet : ArpPacket) : Octets :=
  preamble ++ Octets.ofWord packet.operation.code ++
    packet.sourceMac.toOctets ++ packet.sourceAddress.toOctets ++
    packet.targetMac.toOctets ++ packet.targetAddress.toOctets

/-- Read the packet at the start of an octet string.  What follows it is padding. -/
def ofOctets (octets : Octets) : Except PacketError ArpPacket :=
  if octets.length < length then .error .tooShort
  else if octets.take 6 ≠ preamble then .error .malformed
  else match ArpOperation.ofCode? (octets.wordAt 6) with
    | none => .error .malformed
    | some operation => .ok {
        operation
        sourceMac := MacAddress.readAt octets 8
        sourceAddress := Ipv4Address.readAt octets 14
        targetMac := MacAddress.readAt octets 18
        targetAddress := Ipv4Address.readAt octets 24 }

/-- Write a packet over the start of an octet string. -/
def writeInto (packet : ArpPacket) (octets : Octets) : Except PacketError Octets :=
  if octets.length < length then .error .tooShort
  else .ok (packet.toOctets ++ octets.drop length)

@[simp]
theorem length_toOctets (packet : ArpPacket) : packet.toOctets.length = length := by
  simp [toOctets, preamble, length]

end ArpPacket

end Ipv4Router
