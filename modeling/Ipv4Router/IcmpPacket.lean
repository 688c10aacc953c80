import Ipv4Router.InternetChecksum
import Ipv4Router.PacketError

/-!
# ICMP packets

An ICMP packet has a header of eight octets: type, code, a checksum over the
whole packet and two words whose meaning depends on the type.  Echo messages use
the two words as identifier and sequence number; error messages leave them zero.
The data behind the header is returned by an echo reply and quotes the refused
datagram in an error.
-/

namespace Ipv4Router

/-- The messages a router sends or knows, without their data. -/
inductive IcmpMessage
  | echoReply (identifier sequenceNumber : UInt16)
  | echoRequest (identifier sequenceNumber : UInt16)
  | netUnreachable
  | hostUnreachable
  | portUnreachable
  | timeExceeded
  deriving DecidableEq

namespace IcmpMessage

def echoRequestType : UInt8 := 8

def typeCode : IcmpMessage → UInt8
  | echoReply _ _ => 0
  | echoRequest _ _ => echoRequestType
  | netUnreachable | hostUnreachable | portUnreachable => 3
  | timeExceeded => 11

/-- The code octet of a message, which tells apart messages of one type. -/
def code : IcmpMessage → UInt8
  | hostUnreachable => 1
  | portUnreachable => 3
  | _ => 0

/-- The identifier of an echo message; zero in an error message. -/
def identifier : IcmpMessage → UInt16
  | echoReply identifier _ | echoRequest identifier _ => identifier
  | _ => 0

/-- The sequence number of an echo message; zero in an error message. -/
def sequenceNumber : IcmpMessage → UInt16
  | echoReply _ sequenceNumber | echoRequest _ sequenceNumber => sequenceNumber
  | _ => 0

end IcmpMessage

/-- An octet string seen as an ICMP packet. -/
structure IcmpPacket where
  octets : Octets
  deriving DecidableEq

namespace IcmpPacket

def headerLength : Nat := 8

/-- The greatest length of a packet, header included. -/
def maximumLength : Nat := 65535

/-- See an octet string as a packet, provided that its length is that of a packet. -/
def ofOctets (octets : Octets) : Except PacketError IcmpPacket :=
  if octets.length < headerLength then .error .tooShort
  else if maximumLength < octets.length then .error .malformed
  else .ok ⟨octets⟩

def typeCode (packet : IcmpPacket) : UInt8 :=
  packet.octets.octetAt 0

def code (packet : IcmpPacket) : UInt8 :=
  packet.octets.octetAt 1

def checksum (packet : IcmpPacket) : UInt16 :=
  packet.octets.wordAt 2

def identifier (packet : IcmpPacket) : UInt16 :=
  packet.octets.wordAt 4

def sequenceNumber (packet : IcmpPacket) : UInt16 :=
  packet.octets.wordAt 6

/-- All octets after the header. -/
def data (packet : IcmpPacket) : Octets :=
  packet.octets.drop headerLength

/-- The checksum of the packet as it stands, which is zero when the packet holds
its right checksum. -/
def computedChecksum (packet : IcmpPacket) : UInt16 :=
  internetChecksum packet.octets

/-- Accept a packet that holds its right checksum. -/
def verifyChecksum (packet : IcmpPacket) : Except PacketError Unit :=
  if packet.computedChecksum = 0 then .ok () else .error .badChecksum

/-- The message a packet holds, if it is one of the known messages. -/
def message (packet : IcmpPacket) : Except PacketError IcmpMessage :=
  match packet.typeCode, packet.code with
  | 0, 0 => .ok (.echoReply packet.identifier packet.sequenceNumber)
  | 8, 0 => .ok (.echoRequest packet.identifier packet.sequenceNumber)
  | 3, 0 => .ok .netUnreachable
  | 3, 1 => .ok .hostUnreachable
  | 3, 3 => .ok .portUnreachable
  | 11, 0 => .ok .timeExceeded
  | _, _ => .error .malformed

def setTypeCode (packet : IcmpPacket) (value : UInt8) : IcmpPacket :=
  ⟨packet.octets.setOctet 0 value⟩

def setCode (packet : IcmpPacket) (value : UInt8) : IcmpPacket :=
  ⟨packet.octets.setOctet 1 value⟩

def setChecksum (packet : IcmpPacket) (value : UInt16) : IcmpPacket :=
  ⟨packet.octets.setWord 2 value⟩

def setIdentifier (packet : IcmpPacket) (value : UInt16) : IcmpPacket :=
  ⟨packet.octets.setWord 4 value⟩

def setSequenceNumber (packet : IcmpPacket) (value : UInt16) : IcmpPacket :=
  ⟨packet.octets.setWord 6 value⟩

/-- Clear the checksum field, then fill it with the checksum of the packet. -/
def fillChecksum (packet : IcmpPacket) : IcmpPacket :=
  let cleared := packet.setChecksum 0
  cleared.setChecksum cleared.computedChecksum

def mapData (change : UInt8 → UInt8) (packet : IcmpPacket) : IcmpPacket :=
  ⟨packet.octets.take headerLength ++ packet.data.map change⟩

/-- Write a message over the header of a packet.  The checksum covers the data,
which therefore has to be in place. -/
def setMessage (packet : IcmpPacket) (message : IcmpMessage) : IcmpPacket :=
  (packet.setTypeCode message.typeCode
    |>.setCode message.code
    |>.setIdentifier message.identifier
    |>.setSequenceNumber message.sequenceNumber).fillChecksum

/-- The packet that holds a message and its data. -/
def ofMessage (message : IcmpMessage) (data : Octets) : IcmpPacket :=
  setMessage ⟨List.replicate headerLength 0 ++ data⟩ message

end IcmpPacket

end Ipv4Router
