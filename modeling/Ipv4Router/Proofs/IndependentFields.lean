import Ipv4Router.Proofs.HeaderFields
import Ipv4Router.Proofs.WrittenPackets

/-!
# Independent fields

The place of a field is written out in its setter and again in its getter.  This file lays out
the headers of frames, IPv4 packets and ICMP packets.  It checks for each field that setter and
getter agree on its place, and for each two fields of a header that they do not overlap.

Version and header length of an IPv4 packet share an octet and are set together.  They are the
only field that keeps less than its setter is given: four bits of the version, and as many of
the header length, counted in units of four octets.
-/

namespace Ipv4Router

namespace EthernetFrame

inductive FieldName
  | destination
  | source
  | payloadType
  deriving DecidableEq

def headerField : FieldName → HeaderField octets
  | .destination => .plain .macAddress 0 setDestination destination (fun _ _ => rfl) (fun _ => rfl)
  | .source => .plain .macAddress 6 setSource source (fun _ _ => rfl) (fun _ => rfl)
  | .payloadType => .plain .word 12 setPayloadType payloadType (fun _ _ => rfl) (fun _ => rfl)

def headerLayout : HeaderLayout FieldName octets where
  field := headerField
  headerLength := headerLength
  within name := by cases name <;> decide
  apart first second := by cases first <;> cases second <;> decide

end EthernetFrame

namespace Ipv4Packet

inductive FieldName
  | versionAndHeaderLength
  | typeOfService
  | totalLength
  | identification
  | flagsAndFragmentOffset
  | timeToLive
  | protocol
  | headerChecksum
  | source
  | destination
  deriving DecidableEq

/-- What a shared octet keeps of the version and of the header length. -/
theorem version_headerLength_packed (version headerLength : UInt8) :
    (version * 16 + headerLength / 4 % 16) / 16 = version % 16 ∧
      ((version * 16 + headerLength / 4 % 16) % 16).toNat * 4 =
        4 * (headerLength.toNat / 4 % 16) := by
  have versionBound := version.toNat_lt
  rw [← UInt8.toNat_inj]
  simp only [UInt8.toNat_div, UInt8.toNat_mod, UInt8.toNat_add, UInt8.toNat_mul,
    UInt8.reduceToNat]
  omega

/-- Version and header length, which are read one by one but set together. -/
def versionAndHeaderLengthField : HeaderField octets where
  Value := UInt8 × UInt8
  Reading := UInt8 × Nat
  start := 0
  length := 1
  set packet value := packet.setVersionAndHeaderLength value.1 value.2
  get packet := (packet.version, packet.headerLength)
  kept value := (value.1 % 16, 4 * (value.2.toNat / 4 % 16))
  run value := [value.1 * 16 + value.2 / 4 % 16]
  length_run _ := rfl
  octets_set _ _ := rfl
  get_congr first second octetsEq := by
    have octetEq := octetsEq 0 (by decide)
    rw [version, version, headerLength, headerLength, octetEq]
  get_set packet value inside := by
    obtain ⟨versionEq, headerLengthEq⟩ := version_headerLength_packed value.1 value.2
    rw [version, headerLength, setVersionAndHeaderLength, Octets.octetAt_setOctet _ inside,
      versionEq, headerLengthEq]

def headerField : FieldName → HeaderField octets
  | .versionAndHeaderLength => versionAndHeaderLengthField
  | .typeOfService =>
      .plain .octet 1 setTypeOfService typeOfService (fun _ _ => rfl) (fun _ => rfl)
  | .totalLength =>
      .coded .word 2 UInt16.toNat setTotalLength totalLength (fun _ _ => rfl) (fun _ => rfl)
  | .identification =>
      .plain .word 4 setIdentification identification (fun _ _ => rfl) (fun _ => rfl)
  | .flagsAndFragmentOffset =>
      .plain .word 6 setFlagsAndFragmentOffset flagsAndFragmentOffset (fun _ _ => rfl)
        (fun _ => rfl)
  | .timeToLive => .plain .octet 8 setTimeToLive timeToLive (fun _ _ => rfl) (fun _ => rfl)
  | .protocol => .plain .octet 9 setProtocol protocol (fun _ _ => rfl) (fun _ => rfl)
  | .headerChecksum =>
      .plain .word 10 setHeaderChecksum headerChecksum (fun _ _ => rfl) (fun _ => rfl)
  | .source => .plain .ipv4Address 12 setSource source (fun _ _ => rfl) (fun _ => rfl)
  | .destination =>
      .plain .ipv4Address 16 setDestination destination (fun _ _ => rfl) (fun _ => rfl)

def headerLayout : HeaderLayout FieldName octets where
  field := headerField
  headerLength := minimumHeaderLength
  within name := by cases name <;> decide
  apart first second := by cases first <;> cases second <;> decide

end Ipv4Packet

namespace IcmpPacket

inductive FieldName
  | typeCode
  | code
  | checksum
  | restOfHeader
  deriving DecidableEq

/-- The four octets behind the checksum, which hold the identifier and the sequence number. -/
def restOfHeader (packet : IcmpPacket) : Octets :=
  Octets.ofWord packet.identifier ++ Octets.ofWord packet.sequenceNumber

/-- Set the identifier and the sequence number, given as four octets. -/
def setRestOfHeader (packet : IcmpPacket) : UInt8 × UInt8 × UInt8 × UInt8 → IcmpPacket
  | (first, second, third, fourth) =>
      (packet.setIdentifier (Octets.word first second)).setSequenceNumber
        (Octets.word third fourth)

/-- The two words are written as one run of four octets. -/
theorem octets_setRestOfHeader (packet : IcmpPacket) (value : UInt8 × UInt8 × UInt8 × UInt8) :
    (packet.setRestOfHeader value).octets =
      packet.octets.overwrite 4 (OctetCode.fourOctets.toOctets value) := by
  obtain ⟨first, second, third, fourth⟩ := value
  rw [setRestOfHeader, setSequenceNumber, setIdentifier, Octets.setWord, Octets.setWord,
    Octets.ofWord_word, Octets.ofWord_word]
  exact (Octets.overwrite_append packet.octets 4 [first, second] [third, fourth]).symm

theorem restOfHeader_eq (packet : IcmpPacket) :
    packet.restOfHeader =
      OctetCode.fourOctets.toOctets (OctetCode.fourOctets.readAt packet.octets 4) := by
  rw [restOfHeader, identifier, sequenceNumber, Octets.wordAt, Octets.wordAt, Octets.ofWord_word,
    Octets.ofWord_word]
  rfl

def headerField : FieldName → HeaderField octets
  | .typeCode => .plain .octet 0 setTypeCode typeCode (fun _ _ => rfl) (fun _ => rfl)
  | .code => .plain .octet 1 setCode code (fun _ _ => rfl) (fun _ => rfl)
  | .checksum => .plain .word 2 setChecksum checksum (fun _ _ => rfl) (fun _ => rfl)
  | .restOfHeader =>
      .coded .fourOctets 4 OctetCode.fourOctets.toOctets setRestOfHeader restOfHeader
        octets_setRestOfHeader restOfHeader_eq

def headerLayout : HeaderLayout FieldName octets where
  field := headerField
  headerLength := headerLength
  within name := by cases name <;> decide
  apart first second := by cases first <;> cases second <;> decide

end IcmpPacket

/-- The header fields of every frame and packet that passes for one are independent of each
other.  After any sequence of setters, each field shows the value it was given last, or what it
showed before if it was given none; octets outside the fields that were set keep their values;
and the octets depend on the last values only, not on the order of setters of different
fields. -/
theorem header_fields_independent :
    (∀ octets frame, EthernetFrame.ofOctets octets = .ok frame →
      frame.octets = octets ∧ EthernetFrame.headerLayout.Independent frame) ∧
    (∀ octets packet, Ipv4Packet.ofOctets octets = .ok packet →
      packet.octets = octets ∧ Ipv4Packet.headerLayout.Independent packet) ∧
    ∀ octets packet, IcmpPacket.ofOctets octets = .ok packet →
      packet.octets = octets ∧ IcmpPacket.headerLayout.Independent packet := by
  refine ⟨?_, ?_, ?_⟩
  · intro octets frame accepted
    obtain ⟨long, -, rfl⟩ := EthernetFrame.ofOctets_eq_ok_iff.mp accepted
    exact ⟨rfl, HeaderLayout.independent long⟩
  · intro octets packet accepted
    obtain ⟨long, -, -, -, -, rfl⟩ := Ipv4Packet.ofOctets_eq_ok_iff.mp accepted
    exact ⟨rfl, HeaderLayout.independent long⟩
  · intro octets packet accepted
    obtain ⟨long, -, rfl⟩ := IcmpPacket.ofOctets_eq_ok_iff.mp accepted
    exact ⟨rfl, HeaderLayout.independent long⟩

/-- A frame without payload, a datagram with an option and padding behind it, and a message
without data, each with fields set in various orders. -/
theorem header_fields_independent_set_twice :
    let octets : Octets := List.replicate 14 0xAA
    let frame := EthernetFrame.headerLayout.setAll ⟨octets⟩
      [⟨.source, MacAddress.unspecified⟩, ⟨.payloadType, EthernetFrame.arpType⟩]
    let datagram : Octets := [0x46, 0, 0, 25, 0x12, 0x34, 0x40, 0, 64, 17, 0xAB, 0xCD,
      10, 0, 0, 1, 10, 0, 0, 2, 1, 1, 1, 1, 0xEE, 0xFF]
    let later : List Ipv4Packet.headerLayout.Change :=
      [⟨.versionAndHeaderLength, ((0x65, 0xFF) : UInt8 × UInt8)⟩, ⟨.timeToLive, (1 : UInt8)⟩,
        ⟨.headerChecksum, (0xFFFF : UInt16)⟩]
    let changes : List Ipv4Packet.headerLayout.Change := ⟨.timeToLive, (9 : UInt8)⟩ :: later
    let packet := Ipv4Packet.headerLayout.setAll ⟨datagram⟩ changes
    let code : IcmpPacket.headerLayout.Change := ⟨.code, (3 : UInt8)⟩
    let rest : IcmpPacket.headerLayout.Change :=
      ⟨.restOfHeader, ((1, 2, 3, 4) : UInt8 × UInt8 × UInt8 × UInt8)⟩
    (frame.source = .unspecified ∧ frame.destination = ⟨0xAA, 0xAA, 0xAA, 0xAA, 0xAA, 0xAA⟩) ∧
    ((packet.version, packet.headerLength) = (5, 60) ∧ packet.timeToLive = 1 ∧
      packet.protocol = 17 ∧ packet.octets.octetAt 24 = 0xEE ∧ packet.octets.length = 26 ∧
      packet.octets = (Ipv4Packet.headerLayout.setAll ⟨datagram⟩ later).octets) ∧
    (IcmpPacket.headerLayout.setAll ⟨List.replicate 8 0⟩ [code, rest]).octets =
      (IcmpPacket.headerLayout.setAll ⟨List.replicate 8 0⟩ [rest, code]).octets := by
  intro octets frame datagram later changes packet code rest
  obtain ⟨frames, packets, messages⟩ := header_fields_independent
  refine ⟨?_, ?_, ?_⟩
  · obtain ⟨-, independent⟩ := frames octets ⟨octets⟩ rfl
    exact ⟨independent.last _ .source _ ⟨[], [_], rfl, by decide⟩,
      independent.original _ .destination (by decide)⟩
  · obtain ⟨-, independent⟩ := packets datagram ⟨datagram⟩
      (Ipv4Packet.ofOctets_eq_ok_iff.mpr (by decide))
    refine ⟨?_, ?_, ?_, ?_, ?_, ?_⟩
    · exact independent.last changes .versionAndHeaderLength _ ⟨[_], [_, _], rfl, by decide⟩
    · exact independent.last changes .timeToLive _ ⟨[_, _], [_], rfl, by decide⟩
    · exact independent.original changes .protocol (by decide)
    · exact independent.elsewhere changes 24 (by decide)
    · exact independent.length changes
    · exact independent.determined changes later
        (fun _ _ => HeaderLayout.setsLast_superseded (by decide))
  · obtain ⟨-, independent⟩ := messages (List.replicate 8 0) ⟨List.replicate 8 0⟩ rfl
    exact independent.exchange [] code rest [] (by decide)

end Ipv4Router
