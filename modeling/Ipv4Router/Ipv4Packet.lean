import Ipv4Router.InternetChecksum
import Ipv4Router.Ipv4Address
import Ipv4Router.PacketError

/-!
# IPv4 packets

An IPv4 packet starts with a header of at least twenty octets that tells its own
length, options included, and the length of the whole packet.  The octet string
may go on behind the packet: a short packet is padded to the least length of an
Ethernet frame.  Those trailing octets belong to neither header nor payload.

The header carries a checksum over itself.  Seeing an octet string as a packet
checks its lengths and version only; the checksum is a separate question.
-/

namespace Ipv4Router

/-- An octet string seen as an IPv4 packet, perhaps with padding behind it. -/
structure Ipv4Packet where
  octets : Octets
  deriving DecidableEq

namespace Ipv4Packet

/-- The length of a header without options. -/
def minimumHeaderLength : Nat := 20

def version (packet : Ipv4Packet) : UInt8 :=
  packet.octets.octetAt 0 / 16

/-- The length of the header, which counts in units of four octets. -/
def headerLength (packet : Ipv4Packet) : Nat :=
  (packet.octets.octetAt 0 % 16).toNat * 4

def typeOfService (packet : Ipv4Packet) : UInt8 :=
  packet.octets.octetAt 1

/-- The length of header and payload together. -/
def totalLength (packet : Ipv4Packet) : Nat :=
  (packet.octets.wordAt 2).toNat

def identification (packet : Ipv4Packet) : UInt16 :=
  packet.octets.wordAt 4

def flagsAndFragmentOffset (packet : Ipv4Packet) : UInt16 :=
  packet.octets.wordAt 6

def timeToLive (packet : Ipv4Packet) : UInt8 :=
  packet.octets.octetAt 8

def protocol (packet : Ipv4Packet) : UInt8 :=
  packet.octets.octetAt 9

def headerChecksum (packet : Ipv4Packet) : UInt16 :=
  packet.octets.wordAt 10

def source (packet : Ipv4Packet) : Ipv4Address :=
  Ipv4Address.readAt packet.octets 12

def destination (packet : Ipv4Packet) : Ipv4Address :=
  Ipv4Address.readAt packet.octets 16

/-- The header, options included. -/
def header (packet : Ipv4Packet) : Octets :=
  packet.octets.take packet.headerLength

/-- The payload, without the padding behind the packet. -/
def payload (packet : Ipv4Packet) : Octets :=
  (packet.octets.drop packet.headerLength).take (packet.totalLength - packet.headerLength)

/-- Header and payload, without the padding behind the packet. -/
def datagram (packet : Ipv4Packet) : Octets :=
  packet.octets.take packet.totalLength

/-- See an octet string as a packet, provided that its version is four and that
header, packet and octet string each fit into the next. -/
def ofOctets (octets : Octets) : Except PacketError Ipv4Packet :=
  let packet : Ipv4Packet := ⟨octets⟩
  if octets.length < minimumHeaderLength then .error .tooShort
  else if packet.version = 4 ∧ minimumHeaderLength ≤ packet.headerLength ∧
      packet.headerLength ≤ packet.totalLength ∧ packet.totalLength ≤ octets.length then
    .ok packet
  else .error .malformed

/-- The checksum of the header as it stands, which is zero when the header holds
its right checksum. -/
def computedChecksum (packet : Ipv4Packet) : UInt16 :=
  internetChecksum packet.header

/-- Accept a packet whose header holds its right checksum. -/
def verifyChecksum (packet : Ipv4Packet) : Except PacketError Unit :=
  if packet.computedChecksum = 0 then .ok () else .error .badChecksum

/-- Set version and header length, which share an octet.  The version keeps its
low four bits, and the header length, given in octets, is rounded down to units
of four octets. -/
def setVersionAndHeaderLength (packet : Ipv4Packet) (version headerLength : UInt8) :
    Ipv4Packet :=
  ⟨packet.octets.setOctet 0 (version * 16 + headerLength / 4 % 16)⟩

def setTypeOfService (packet : Ipv4Packet) (value : UInt8) : Ipv4Packet :=
  ⟨packet.octets.setOctet 1 value⟩

def setTotalLength (packet : Ipv4Packet) (value : UInt16) : Ipv4Packet :=
  ⟨packet.octets.setWord 2 value⟩

def setIdentification (packet : Ipv4Packet) (value : UInt16) : Ipv4Packet :=
  ⟨packet.octets.setWord 4 value⟩

def setFlagsAndFragmentOffset (packet : Ipv4Packet) (value : UInt16) : Ipv4Packet :=
  ⟨packet.octets.setWord 6 value⟩

def setTimeToLive (packet : Ipv4Packet) (value : UInt8) : Ipv4Packet :=
  ⟨packet.octets.setOctet 8 value⟩

def setProtocol (packet : Ipv4Packet) (value : UInt8) : Ipv4Packet :=
  ⟨packet.octets.setOctet 9 value⟩

def setHeaderChecksum (packet : Ipv4Packet) (value : UInt16) : Ipv4Packet :=
  ⟨packet.octets.setWord 10 value⟩

def setSource (packet : Ipv4Packet) (address : Ipv4Address) : Ipv4Packet :=
  ⟨packet.octets.overwrite 12 address.toOctets⟩

def setDestination (packet : Ipv4Packet) (address : Ipv4Address) : Ipv4Packet :=
  ⟨packet.octets.overwrite 16 address.toOctets⟩

/-- Clear the checksum field, then fill it with the checksum of the header. -/
def fillChecksum (packet : Ipv4Packet) : Ipv4Packet :=
  let cleared := packet.setHeaderChecksum 0
  cleared.setHeaderChecksum cleared.computedChecksum

/-- Change every octet of the payload; header and padding stay. -/
def mapPayload (change : UInt8 → UInt8) (packet : Ipv4Packet) : Ipv4Packet :=
  let behindHeader := packet.octets.drop packet.headerLength
  let payloadLength := packet.totalLength - packet.headerLength
  ⟨packet.header ++ (behindHeader.take payloadLength).map change ++
    behindHeader.drop payloadLength⟩

end Ipv4Packet

/-- The fields of a header without options that its writer chooses. -/
structure Ipv4Header where
  source : Ipv4Address
  destination : Ipv4Address
  protocol : UInt8
  timeToLive : UInt8
  identification : UInt16
  /-- The number of octets that follow the header. -/
  payloadLength : Nat
  deriving DecidableEq

namespace Ipv4Header

def icmpProtocol : UInt8 := 1

def packetLength (header : Ipv4Header) : Nat :=
  Ipv4Packet.minimumHeaderLength + header.payloadLength

/-- The octets of a header whose checksum field is still zero.  The length field
holds the packet length modulo `65536`. -/
def toOctets (header : Ipv4Header) : Octets :=
  [0x45, 0] ++ Octets.ofWord header.packetLength.toUInt16 ++
    Octets.ofWord header.identification ++ Octets.ofWord 0 ++
    [header.timeToLive, header.protocol] ++ Octets.ofWord 0 ++
    header.source.toOctets ++ header.destination.toOctets

/-- The packet of a header, checksum included, and a payload behind it. -/
def attach (header : Ipv4Header) (payload : Octets) : Octets :=
  (Ipv4Packet.mk (header.toOctets ++ payload)).fillChecksum.octets

/-- Write a header, checksum included, over the start of an octet string that has
room for the whole packet. -/
def writeInto (header : Ipv4Header) (octets : Octets) : Except PacketError Octets :=
  if octets.length < header.packetLength then .error .tooShort
  else .ok (header.attach (octets.drop Ipv4Packet.minimumHeaderLength))

@[simp]
theorem length_toOctets (header : Ipv4Header) :
    header.toOctets.length = Ipv4Packet.minimumHeaderLength := by
  simp [toOctets, Ipv4Packet.minimumHeaderLength]

end Ipv4Header

end Ipv4Router
