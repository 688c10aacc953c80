import Ipv4Router.ArpPacket
import Ipv4Router.Proofs.CheckedOctets
import Ipv4Router.Proofs.WrittenPackets

/-!
# Checked packets

Reading and writing the fields of frames and packets in checked operations.  Each
field lies where the length that was established for its frame or packet puts it, so
every read and write agrees with its unchecked form.  For an IPv4 packet that is the
length of its own header fields, and a packet passes for readable before any of them
is relied on.

A header is written field by field over whatever the string holds, and an unchecked
writer lays it down as a whole.  That both come to the same is shown octet by octet.
-/

namespace Ipv4Router

open Checked

namespace EthernetFrame

def checkedDestination (frame : EthernetFrame) : Checked MacAddress :=
  MacAddress.checkedReadAt frame.octets 0

def checkedPayloadType (frame : EthernetFrame) : Checked UInt16 :=
  frame.octets.checkedWordAt 12

def checkedPayload (frame : EthernetFrame) : Checked Octets :=
  frame.octets.checkedRange headerLength frame.octets.length

def checkedSetDestination (frame : EthernetFrame) (address : MacAddress) :
    Checked EthernetFrame := do
  return ⟨← frame.octets.checkedCopy 0 6 address.toOctets⟩

def checkedSetSource (frame : EthernetFrame) (address : MacAddress) :
    Checked EthernetFrame := do
  return ⟨← frame.octets.checkedCopy 6 12 address.toOctets⟩

def checkedSetAddresses (frame : EthernetFrame) (destination source : MacAddress) :
    Checked EthernetFrame := do
  (← frame.checkedSetSource source).checkedSetDestination destination

def checkedSetPayloadType (frame : EthernetFrame) (value : UInt16) :
    Checked EthernetFrame := do
  return ⟨← frame.octets.checkedSetWord 12 value⟩

/-- Copy a payload over all that follows the header. -/
def checkedSetPayload (frame : EthernetFrame) (payload : Octets) : Checked EthernetFrame := do
  return ⟨← frame.octets.checkedCopy headerLength frame.octets.length payload⟩

section Fields

variable {frame : EthernetFrame}

theorem long_of_ofOctets {octets : Octets} (accepted : ofOctets octets = .ok frame) :
    headerLength ≤ frame.octets.length := by
  obtain ⟨long, -, rfl⟩ := ofOctets_eq_ok_iff.mp accepted
  exact long

theorem ofOctets_eq_error {octets other : Octets} {fault : PacketError}
    (sameLength : octets.length = other.length) (refused : ofOctets other = .error fault) :
    ofOctets octets = .error fault := by
  simp only [ofOctets, sameLength] at refused ⊢
  by_cases tooShort : other.length < headerLength
  · simpa only [if_pos tooShort] using refused
  by_cases tooLong : maximumLength < other.length
  · simpa only [if_neg tooShort, if_pos tooLong] using refused
  · simp only [if_neg tooShort, if_neg tooLong] at refused
    cases refused

theorem checkedDestination_eq (long : headerLength ≤ frame.octets.length) :
    frame.checkedDestination = .ok frame.destination :=
  MacAddress.checkedReadAt_eq (Nat.le_trans (by decide) long)

theorem checkedPayloadType_eq (long : headerLength ≤ frame.octets.length) :
    frame.checkedPayloadType = .ok frame.payloadType :=
  Octets.checkedWordAt_eq long

theorem checkedPayload_eq (long : headerLength ≤ frame.octets.length) :
    frame.checkedPayload = .ok frame.payload :=
  Octets.checkedRange_of_stop_eq long

theorem checkedSetDestination_eq (address : MacAddress)
    (long : headerLength ≤ frame.octets.length) :
    frame.checkedSetDestination address = .ok (frame.setDestination address) := by
  rw [checkedSetDestination, Octets.checkedCopy_eq (by simp) (Nat.le_trans (by decide) long)]
  rfl

theorem checkedSetSource_eq (address : MacAddress)
    (long : headerLength ≤ frame.octets.length) :
    frame.checkedSetSource address = .ok (frame.setSource address) := by
  rw [checkedSetSource, Octets.checkedCopy_eq (by simp) (Nat.le_trans (by decide) long)]
  rfl

theorem checkedSetAddresses_eq (destination source : MacAddress)
    (long : headerLength ≤ frame.octets.length) :
    frame.checkedSetAddresses destination source =
      .ok ⟨assemble destination source frame.payloadType frame.payload⟩ := by
  have stillLong : headerLength ≤ (frame.setSource source).octets.length := by
    rw [length_setSource]
    exact long
  rw [checkedSetAddresses, checkedSetSource_eq source long, ok_bind,
    checkedSetDestination_eq destination stillLong, setDestination_setSource long]

theorem checkedSetPayloadType_eq (value : UInt16)
    (long : headerLength ≤ frame.octets.length) :
    frame.checkedSetPayloadType value = .ok (frame.setPayloadType value) := by
  rw [checkedSetPayloadType, Octets.checkedSetWord_eq value long]
  rfl

end Fields

/-- An empty string is a frame without addresses whose payload is empty. -/
theorem replicate_eq_assemble (length : Nat) :
    List.replicate (headerLength + length) 0 =
      assemble .unspecified .unspecified 0 (List.replicate length 0) := by
  rw [← List.replicate_append_replicate]
  rfl

section Assemble

variable {destination source : MacAddress} {payloadType : UInt16} {payload : Octets}

theorem checkedPayload_assemble :
    (EthernetFrame.mk (assemble destination source payloadType payload)).checkedPayload =
      .ok payload :=
  checkedPayload_eq (by simp)

theorem checkedSetAddresses_assemble (newDestination newSource : MacAddress) :
    (EthernetFrame.mk (assemble destination source payloadType payload)).checkedSetAddresses
      newDestination newSource =
        .ok ⟨assemble newDestination newSource payloadType payload⟩ := by
  rw [checkedSetAddresses_eq _ _ (by simp), payloadType_assemble, payload_assemble]

theorem checkedSetPayloadType_assemble (value : UInt16) :
    (EthernetFrame.mk (assemble destination source payloadType payload)).checkedSetPayloadType
      value = .ok ⟨assemble destination source value payload⟩ := by
  rw [checkedSetPayloadType_eq value (by simp), setPayloadType_assemble]

theorem checkedSetPayload_assemble {run : Octets} (sameLength : run.length = payload.length) :
    (EthernetFrame.mk (assemble destination source payloadType payload)).checkedSetPayload run =
      .ok ⟨assemble destination source payloadType run⟩ := by
  have whole : (assemble destination source payloadType payload).length =
      headerLength + run.length := by
    rw [length_assemble, sameLength]
  rw [checkedSetPayload, Octets.checkedCopy_eq whole (Nat.le_refl _), ok_bind,
    overwrite_assemble _ _ _ _ sameLength]
  rfl

end Assemble

end EthernetFrame

namespace ArpPacket

def checkedOfOctets (octets : Octets) : Checked (Except PacketError ArpPacket) :=
  if octets.length < length then return .error .tooShort
  else do
    let start ← octets.checkedRange 0 6
    let code ← octets.checkedWordAt 6
    if start ≠ preamble then return .error .malformed
    else match ArpOperation.ofCode? code with
      | none => return .error .malformed
      | some operation =>
          let sourceMac ← MacAddress.checkedReadAt octets 8
          let sourceAddress ← Ipv4Address.checkedReadAt octets 14
          let targetMac ← MacAddress.checkedReadAt octets 18
          let targetAddress ← Ipv4Address.checkedReadAt octets 24
          return .ok { operation, sourceMac, sourceAddress, targetMac, targetAddress }

def checkedWriteInto (packet : ArpPacket) (octets : Octets) :
    Checked (Except PacketError Octets) :=
  if octets.length < length then return .error .tooShort
  else return .ok (← octets.checkedCopy 0 length packet.toOctets)

theorem checkedOfOctets_eq (octets : Octets) :
    checkedOfOctets octets = .ok (ofOctets octets) := by
  unfold checkedOfOctets ofOctets
  split
  · rfl
  next notShort =>
    have long : 28 ≤ octets.length := Nat.le_of_not_lt notShort
    rw [Octets.checkedRange_eq (by omega) (by omega), ok_bind, List.drop_zero,
      Octets.checkedWordAt_eq (by omega), ok_bind]
    split
    · rfl
    · rw [MacAddress.checkedReadAt_eq (by omega), Ipv4Address.checkedReadAt_eq (by omega),
        MacAddress.checkedReadAt_eq (by omega), Ipv4Address.checkedReadAt_eq (by omega)]
      cases ArpOperation.ofCode? (octets.wordAt 6) <;> rfl

theorem checkedWriteInto_eq (packet : ArpPacket) (octets : Octets) :
    packet.checkedWriteInto octets = .ok (packet.writeInto octets) := by
  unfold checkedWriteInto writeInto
  split
  · rfl
  next notShort =>
    have fits : 0 + packet.toOctets.length ≤ octets.length := by
      rw [length_toOctets]
      omega
    rw [Octets.checkedCopy_eq (by rw [length_toOctets, Nat.zero_add]) (by omega), ok_bind,
      Octets.overwrite_eq_append fits, length_toOctets, Nat.zero_add]
    rfl

end ArpPacket

namespace IcmpPacket

def checkedTypeCode (packet : IcmpPacket) : Checked UInt8 :=
  packet.octets.checkedOctetAt 0

/-- The identifier and the sequence number, by way of an array that holds both. -/
def checkedEcho (packet : IcmpPacket) : Checked (UInt16 × UInt16) := do
  let words ← packet.octets.checkedArray 4 4
  return (← words.checkedWordAt 0, ← words.checkedWordAt 2)

def checkedData (packet : IcmpPacket) : Checked Octets :=
  packet.octets.checkedRange headerLength packet.octets.length

def checkedVerify (packet : IcmpPacket) : Checked (Except PacketError Unit) := do
  let checksum ← checkedInternetChecksum packet.octets
  return if checksum = 0 then .ok () else .error .badChecksum

def checkedFillChecksum (packet : IcmpPacket) : Checked IcmpPacket := do
  let cleared ← packet.octets.checkedSetWord 2 0
  let checksum ← checkedInternetChecksum cleared
  return ⟨← cleared.checkedSetWord 2 checksum⟩

/-- The array of the identifier and the sequence number. -/
def checkedEchoWords (message : IcmpMessage) : Checked Octets := do
  let identified ← Octets.checkedSetWord (List.replicate 4 0) 0 message.identifier
  identified.checkedSetWord 2 message.sequenceNumber

def checkedSetMessage (packet : IcmpPacket) (message : IcmpMessage) : Checked IcmpPacket := do
  let words ← checkedEchoWords message
  let octets ← packet.octets.checkedSetOctet 0 message.typeCode
  let octets ← octets.checkedSetOctet 1 message.code
  let octets ← octets.checkedCopy 4 8 words
  checkedFillChecksum ⟨octets⟩

section Fields

variable {packet : IcmpPacket} (long : headerLength ≤ packet.octets.length)
include long

theorem checkedTypeCode_eq : packet.checkedTypeCode = .ok packet.typeCode :=
  Octets.checkedOctetAt_eq (Nat.le_trans (by decide) long)

theorem checkedEcho_eq :
    packet.checkedEcho = .ok (packet.identifier, packet.sequenceNumber) := by
  have inside : 4 + 4 ≤ packet.octets.length := long
  have wordsLength : ((packet.octets.take (4 + 4)).drop 4).length = 4 := by
    rw [List.length_drop, List.length_take]
    omega
  rw [checkedEcho, Octets.checkedArray_eq inside, ok_bind, Octets.checkedWordAt_eq (by omega),
    ok_bind, Octets.checkedWordAt_eq (by omega), ok_bind]
  simp only [Octets.wordAt, Octets.octetAt_range (show 0 < 4 by decide),
    Octets.octetAt_range (show 0 + 1 < 4 by decide), Octets.octetAt_range (show 2 < 4 by decide),
    Octets.octetAt_range (show 2 + 1 < 4 by decide)]
  rfl

theorem checkedData_eq : packet.checkedData = .ok packet.data :=
  Octets.checkedRange_of_stop_eq long

theorem checkedFillChecksum_eq (short : packet.octets.length ≤ 131074) :
    packet.checkedFillChecksum = .ok packet.fillChecksum := by
  have inside : 2 + 2 ≤ packet.octets.length := Nat.le_trans (by decide) long
  rw [checkedFillChecksum, Octets.checkedSetWord_eq 0 inside, ok_bind,
    checkedInternetChecksum_eq (by rw [Octets.length_setWord]; exact short), ok_bind,
    Octets.checkedSetWord_eq _ (by rw [Octets.length_setWord]; exact inside)]
  rfl

theorem checkedSetMessage_eq (message : IcmpMessage)
    (short : packet.octets.length ≤ 131074) :
    packet.checkedSetMessage message = .ok (packet.setMessage message) := by
  simp only [headerLength] at long
  have words : checkedEchoWords message = .ok
      (Octets.ofWord message.identifier ++ Octets.ofWord message.sequenceNumber) := rfl
  rw [checkedSetMessage, words, ok_bind, Octets.checkedSetOctet_eq _ (by omega), ok_bind,
    Octets.checkedSetOctet_eq _ (by rw [Octets.length_setOctet]; omega), ok_bind,
    Octets.checkedCopy_eq (by simp) (by simpa using long), ok_bind, checkedFillChecksum_eq]
  · rfl
  · simpa [headerLength] using long
  · simpa using short

end Fields

theorem checkedVerify_eq {packet : IcmpPacket} (short : packet.octets.length ≤ 131074) :
    packet.checkedVerify = .ok packet.verifyChecksum := by
  rw [checkedVerify, checkedInternetChecksum_eq short]
  rfl

end IcmpPacket

namespace Ipv4Packet

def checkedVersion (packet : Ipv4Packet) : Checked UInt8 := do
  return (← packet.octets.checkedOctetAt 0) / 16

/-- The length of the header, multiplied out in a register of eight bits. -/
def checkedHeaderLength (packet : Ipv4Packet) : Checked Nat := do
  return (← checkedMul ((← packet.octets.checkedOctetAt 0) % 16) 4).toNat

def checkedTotalLength (packet : Ipv4Packet) : Checked Nat := do
  return (← packet.octets.checkedWordAt 2).toNat

def checkedTimeToLive (packet : Ipv4Packet) : Checked UInt8 :=
  packet.octets.checkedOctetAt 8

def checkedProtocol (packet : Ipv4Packet) : Checked UInt8 :=
  packet.octets.checkedOctetAt 9

def checkedSource (packet : Ipv4Packet) : Checked Ipv4Address :=
  Ipv4Address.checkedReadAt packet.octets 12

def checkedDestination (packet : Ipv4Packet) : Checked Ipv4Address :=
  Ipv4Address.checkedReadAt packet.octets 16

def checkedHeader (packet : Ipv4Packet) : Checked Octets := do
  packet.octets.checkedRange 0 (← packet.checkedHeaderLength)

def checkedPayload (packet : Ipv4Packet) : Checked Octets := do
  packet.octets.checkedRange (← packet.checkedHeaderLength) (← packet.checkedTotalLength)

def checkedOfOctets (octets : Octets) : Checked (Except PacketError Ipv4Packet) :=
  if octets.length < minimumHeaderLength then return .error .tooShort
  else do
    let packet : Ipv4Packet := ⟨octets⟩
    let headerLength ← packet.checkedHeaderLength
    let totalLength ← packet.checkedTotalLength
    let version ← packet.checkedVersion
    if version = 4 ∧ minimumHeaderLength ≤ headerLength ∧ headerLength ≤ totalLength ∧
        totalLength ≤ octets.length then
      return .ok packet
    else return .error .malformed

def checkedVerify (packet : Ipv4Packet) : Checked (Except PacketError Unit) := do
  let checksum ← checkedInternetChecksum (← packet.checkedHeader)
  return if checksum = 0 then .ok () else .error .badChecksum

def checkedSetTimeToLive (packet : Ipv4Packet) (value : UInt8) : Checked Ipv4Packet := do
  return ⟨← packet.octets.checkedSetOctet 8 value⟩

def checkedSetHeaderChecksum (packet : Ipv4Packet) (value : UInt16) : Checked Ipv4Packet := do
  return ⟨← packet.octets.checkedSetWord 10 value⟩

def checkedFillChecksum (packet : Ipv4Packet) : Checked Ipv4Packet := do
  let cleared ← packet.checkedSetHeaderChecksum 0
  cleared.checkedSetHeaderChecksum (← checkedInternetChecksum (← cleared.checkedHeader))

section Fields

variable {packet : Ipv4Packet}

theorem checkedHeaderLength_eq (long : minimumHeaderLength ≤ packet.octets.length) :
    packet.checkedHeaderLength = .ok packet.headerLength := by
  simp only [minimumHeaderLength] at long
  have units : (packet.octets.octetAt 0 % 16).toNat < 16 := by
    rw [UInt8.toNat_mod]
    exact Nat.mod_lt _ (by decide)
  have product : (packet.octets.octetAt 0 % 16).toNat * (4 : UInt8).toNat < UInt8.size := by
    simp only [UInt8.reduceToNat, UInt8.size]
    omega
  rw [checkedHeaderLength, Octets.checkedOctetAt_eq (by omega), ok_bind, checkedMul,
    provided_eq product, ok_bind, UInt8.toNat_mul]
  exact congrArg Except.ok (Nat.mod_eq_of_lt product)

theorem checkedTotalLength_eq (long : minimumHeaderLength ≤ packet.octets.length) :
    packet.checkedTotalLength = .ok packet.totalLength := by
  rw [checkedTotalLength, Octets.checkedWordAt_eq (Nat.le_trans (by decide) long)]
  rfl

theorem checkedVersion_eq (long : minimumHeaderLength ≤ packet.octets.length) :
    packet.checkedVersion = .ok packet.version := by
  rw [checkedVersion, Octets.checkedOctetAt_eq (Nat.le_trans (by decide) long)]
  rfl

theorem checkedTimeToLive_eq (long : minimumHeaderLength ≤ packet.octets.length) :
    packet.checkedTimeToLive = .ok packet.timeToLive :=
  Octets.checkedOctetAt_eq (Nat.le_trans (by decide) long)

theorem checkedProtocol_eq (long : minimumHeaderLength ≤ packet.octets.length) :
    packet.checkedProtocol = .ok packet.protocol :=
  Octets.checkedOctetAt_eq (Nat.le_trans (by decide) long)

theorem checkedSource_eq (long : minimumHeaderLength ≤ packet.octets.length) :
    packet.checkedSource = .ok packet.source :=
  Ipv4Address.checkedReadAt_eq (Nat.le_trans (by decide) long)

theorem checkedDestination_eq (long : minimumHeaderLength ≤ packet.octets.length) :
    packet.checkedDestination = .ok packet.destination :=
  Ipv4Address.checkedReadAt_eq (Nat.le_trans (by decide) long)

theorem checkedHeader_eq (long : minimumHeaderLength ≤ packet.octets.length)
    (whole : packet.headerLength ≤ packet.octets.length) :
    packet.checkedHeader = .ok packet.header := by
  rw [checkedHeader, checkedHeaderLength_eq long, ok_bind,
    Octets.checkedRange_eq (Nat.zero_le _) whole]
  rfl

/-- A header of sixty octets is not to be found in twenty. -/
example : checkedHeader ⟨0x4F :: List.replicate 19 0⟩ = .error .outOfRange := rfl

theorem checkedOfOctets_eq (octets : Octets) :
    checkedOfOctets octets = .ok (ofOctets octets) := by
  unfold checkedOfOctets ofOctets
  simp only
  split
  · rfl
  next notShort =>
    have long : minimumHeaderLength ≤ (Ipv4Packet.mk octets).octets.length :=
      Nat.le_of_not_lt notShort
    rw [checkedHeaderLength_eq long, ok_bind, checkedTotalLength_eq long, ok_bind,
      checkedVersion_eq long, ok_bind]
    split <;> rfl

theorem checkedSetTimeToLive_eq (value : UInt8)
    (long : minimumHeaderLength ≤ packet.octets.length) :
    packet.checkedSetTimeToLive value = .ok (packet.setTimeToLive value) := by
  rw [checkedSetTimeToLive, Octets.checkedSetOctet_eq value (Nat.le_trans (by decide) long)]
  rfl

theorem checkedSetHeaderChecksum_eq (value : UInt16)
    (long : minimumHeaderLength ≤ packet.octets.length) :
    packet.checkedSetHeaderChecksum value = .ok (packet.setHeaderChecksum value) := by
  rw [checkedSetHeaderChecksum, Octets.checkedSetWord_eq value (Nat.le_trans (by decide) long)]
  rfl

theorem length_header_le (packet : Ipv4Packet) : packet.header.length ≤ 60 := by
  have bound := packet.headerLength_le
  rw [header, List.length_take]
  omega

theorem checkedFillChecksum_eq (long : minimumHeaderLength ≤ packet.octets.length)
    (whole : packet.headerLength ≤ packet.octets.length) :
    packet.checkedFillChecksum = .ok packet.fillChecksum := by
  have clearedLength : (packet.setHeaderChecksum 0).octets.length = packet.octets.length :=
    Octets.length_setWord _ _ _
  have clearedLong : minimumHeaderLength ≤ (packet.setHeaderChecksum 0).octets.length := by
    rw [clearedLength]
    exact long
  have clearedWhole : (packet.setHeaderChecksum 0).headerLength ≤
      (packet.setHeaderChecksum 0).octets.length := by
    rw [headerLength_setHeaderChecksum, clearedLength]
    exact whole
  rw [checkedFillChecksum, checkedSetHeaderChecksum_eq 0 long, ok_bind,
    checkedHeader_eq clearedLong clearedWhole, ok_bind,
    checkedInternetChecksum_eq (Nat.le_trans (length_header_le _) (by decide)), ok_bind,
    checkedSetHeaderChecksum_eq _ clearedLong]
  rfl

end Fields

section Readable

variable {packet : Ipv4Packet} (read : ofOctets packet.octets = .ok packet)
include read

theorem checkedPayload_eq : packet.checkedPayload = .ok packet.payload := by
  obtain ⟨long, -, -, ordered, total, -⟩ := ofOctets_eq_ok_iff.mp read
  rw [checkedPayload, checkedHeaderLength_eq long, ok_bind, checkedTotalLength_eq long, ok_bind,
    Octets.checkedRange_eq ordered total, List.drop_take]
  rfl

theorem checkedHeader_of_readable : packet.checkedHeader = .ok packet.header := by
  obtain ⟨long, -, -, ordered, total, -⟩ := ofOctets_eq_ok_iff.mp read
  exact checkedHeader_eq long (Nat.le_trans ordered total)

theorem checkedVerify_eq : packet.checkedVerify = .ok packet.verifyChecksum := by
  rw [checkedVerify, checkedHeader_of_readable read, ok_bind,
    checkedInternetChecksum_eq (Nat.le_trans packet.length_header_le (by decide))]
  rfl

end Readable

end Ipv4Packet

namespace Ipv4Header

/-- The fields of a header but for the checksum, one by one written over a string. -/
def overlay (header : Ipv4Header) (octets : Octets) : Octets :=
  let octets := octets.setOctet 0 0x45
  let octets := octets.setOctet 1 0
  let octets := octets.setWord 2 header.packetLength.toUInt16
  let octets := octets.setWord 4 header.identification
  let octets := octets.setWord 6 0
  let octets := octets.setOctet 8 header.timeToLive
  let octets := octets.setOctet 9 header.protocol
  let octets := octets.overwrite 12 header.source.toOctets
  octets.overwrite 16 header.destination.toOctets

def checkedOverlay (header : Ipv4Header) (octets : Octets) : Checked Octets := do
  let octets ← octets.checkedSetOctet 0 0x45
  let octets ← octets.checkedSetOctet 1 0
  let octets ← octets.checkedSetWord 2 (← checkedWord header.packetLength)
  let octets ← octets.checkedSetWord 4 header.identification
  let octets ← octets.checkedSetWord 6 0
  let octets ← octets.checkedSetOctet 8 header.timeToLive
  let octets ← octets.checkedSetOctet 9 header.protocol
  let octets ← octets.checkedCopy 12 16 header.source.toOctets
  octets.checkedCopy 16 20 header.destination.toOctets

def checkedWriteInto (header : Ipv4Header) (octets : Octets) :
    Checked (Except PacketError Octets) :=
  if octets.length < header.packetLength then return .error .tooShort
  else do
    let packet ← Ipv4Packet.checkedFillChecksum ⟨← header.checkedOverlay octets⟩
    return .ok packet.octets

variable {header : Ipv4Header} {octets : Octets}

theorem checkedOverlay_eq (short : header.packetLength ≤ 65535)
    (long : Ipv4Packet.minimumHeaderLength ≤ octets.length) :
    header.checkedOverlay octets = .ok (header.overlay octets) := by
  simp only [Ipv4Packet.minimumHeaderLength] at long
  have narrow : checkedWord header.packetLength = .ok header.packetLength.toUInt16 :=
    provided_eq (Nat.lt_succ_of_le short) _ _
  rw [checkedOverlay, Octets.checkedSetOctet_eq _ (by omega), ok_bind,
    Octets.checkedSetOctet_eq _ (by simp; omega), ok_bind, narrow, ok_bind,
    Octets.checkedSetWord_eq _ (by simp; omega), ok_bind,
    Octets.checkedSetWord_eq _ (by simp; omega), ok_bind,
    Octets.checkedSetWord_eq _ (by simp; omega), ok_bind,
    Octets.checkedSetOctet_eq _ (by simp; omega), ok_bind,
    Octets.checkedSetOctet_eq _ (by simp; omega), ok_bind,
    Octets.checkedCopy_eq (by simp) (by simp; omega), ok_bind,
    Octets.checkedCopy_eq (by simp) (by simp; omega)]
  rfl

/-- The fields before the checksum. -/
def beforeChecksum (header : Ipv4Header) : Octets :=
  [0x45] ++ [0] ++ Octets.ofWord header.packetLength.toUInt16 ++
    Octets.ofWord header.identification ++ Octets.ofWord 0 ++
    [header.timeToLive] ++ [header.protocol]

/-- The fields behind the checksum. -/
def behindChecksum (header : Ipv4Header) : Octets :=
  header.source.toOctets ++ header.destination.toOctets

theorem toOctets_eq (header : Ipv4Header) :
    header.toOctets = header.beforeChecksum ++ Octets.ofWord 0 ++ header.behindChecksum := by
  simp [toOctets, beforeChecksum, behindChecksum]

@[simp]
theorem length_overlay (header : Ipv4Header) (octets : Octets) :
    (header.overlay octets).length = octets.length := by
  simp [overlay]

theorem overlay_eq (header : Ipv4Header) (octets : Octets) :
    header.overlay octets =
      (octets.overwrite 0 header.beforeChecksum).overwrite 12 header.behindChecksum := by
  simp only [overlay, beforeChecksum, behindChecksum, Octets.setOctet, Octets.setWord,
    Octets.overwrite_append, List.length_append, List.length_singleton, Octets.length_ofWord,
    Ipv4Address.length_toOctets, Nat.zero_add, Nat.reduceAdd]

/-- With its checksum cleared, a header that was written field by field is laid down as
a whole. -/
theorem setWord_overlay (header : Ipv4Header)
    (long : Ipv4Packet.minimumHeaderLength ≤ octets.length) :
    (header.overlay octets).setWord 10 0 =
      header.toOctets ++ octets.drop Ipv4Packet.minimumHeaderLength := by
  have beforeLength : header.beforeChecksum.length = 10 := by simp [beforeChecksum]
  calc
    (header.overlay octets).setWord 10 0 =
        ((octets.overwrite 0 header.beforeChecksum).overwrite 10 (Octets.ofWord 0)).overwrite 12
          header.behindChecksum := by
      rw [overlay_eq, Octets.setWord, Octets.overwrite_comm _ (by simp)]
    _ = octets.overwrite 0 header.toOctets := by
      rw [toOctets_eq, Octets.overwrite_append, Octets.overwrite_append, List.length_append,
        beforeLength, Octets.length_ofWord]
    _ = header.toOctets ++ octets.drop Ipv4Packet.minimumHeaderLength := by
      rw [Octets.overwrite_eq_append (by simpa using long), List.take_zero, List.nil_append,
        length_toOctets, Nat.zero_add]

theorem fillChecksum_overlay (header : Ipv4Header)
    (long : Ipv4Packet.minimumHeaderLength ≤ octets.length) :
    (Ipv4Packet.mk (header.overlay octets)).fillChecksum.octets =
      header.attach (octets.drop Ipv4Packet.minimumHeaderLength) := by
  have cleared : (Ipv4Packet.mk (header.overlay octets)).setHeaderChecksum 0 =
      (Ipv4Packet.mk (header.toOctets ++
        octets.drop Ipv4Packet.minimumHeaderLength)).setHeaderChecksum 0 := by
    rw [Ipv4Packet.setHeaderChecksum, setWord_overlay header long]
    rfl
  simp only [attach, Ipv4Packet.fillChecksum, cleared]

theorem headerLength_overlay (header : Ipv4Header)
    (long : Ipv4Packet.minimumHeaderLength ≤ octets.length) :
    (Ipv4Packet.mk (header.overlay octets)).headerLength = Ipv4Packet.minimumHeaderLength := by
  rw [← Ipv4Packet.headerLength_setHeaderChecksum _ 0, Ipv4Packet.setHeaderChecksum,
    setWord_overlay header long, headerLength_toOctets_append]

theorem checkedWriteInto_eq (octets : Octets) (short : header.packetLength ≤ 65535) :
    header.checkedWriteInto octets = .ok (header.writeInto octets) := by
  unfold checkedWriteInto writeInto
  split
  · rfl
  next notShort =>
    have long : Ipv4Packet.minimumHeaderLength ≤ octets.length :=
      Nat.le_trans (Nat.le_add_right _ _) (Nat.le_of_not_lt notShort)
    have overlayLong : Ipv4Packet.minimumHeaderLength ≤
        (Ipv4Packet.mk (header.overlay octets)).octets.length := by
      simpa only [length_overlay] using long
    have filled := Ipv4Packet.checkedFillChecksum_eq overlayLong
      (by simpa only [headerLength_overlay header long] using overlayLong)
    rw [checkedOverlay_eq short long, ok_bind, filled, ok_bind, pure_eq_ok]
    exact congrArg (fun written => Except.ok (Except.ok written))
      (fillChecksum_overlay header long)

end Ipv4Header

end Ipv4Router
