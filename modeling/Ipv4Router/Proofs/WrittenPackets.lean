import Ipv4Router.ArpPacket
import Ipv4Router.Proofs.CompletedFrames

/-!
# Written packets are read back

A packet that was written is read back field by field.  For packets that carry a
checksum this needs their written form, in which the checksum is a word like any
other: the fields before and behind it do not depend on its value.

The checksum itself matches as long as the packet is short enough for the register
in which its words are added.
-/

namespace Ipv4Router

namespace ArpPacket

/-- A written packet is read back, whatever follows it. -/
theorem ofOctets_toOctets (packet : ArpPacket) (rest : Octets) :
    ofOctets (packet.toOctets ++ rest) = .ok packet := by
  have long : ¬ (packet.toOctets ++ rest).length < length := by
    rw [List.length_append, length_toOctets]
    omega
  have start : ¬ (packet.toOctets ++ rest).take 6 ≠ preamble := not_not_intro rfl
  have operation : (packet.toOctets ++ rest).wordAt 6 = packet.operation.code :=
    Octets.word_ofWord _
  simp only [ofOctets, if_neg long, if_neg start, operation, ArpOperation.ofCode?_code]
  rfl

end ArpPacket

namespace IcmpPacket

variable {packet : IcmpPacket} {message : IcmpMessage}

theorem ofOctets_eq_ok_iff {octets : Octets} :
    ofOctets octets = .ok packet ↔
      headerLength ≤ octets.length ∧ octets.length ≤ maximumLength ∧ packet = ⟨octets⟩ := by
  unfold ofOctets
  split
  · simp; omega
  split
  · simp; omega
  next longEnough notTooLong =>
    simp only [Except.ok.injEq, Nat.le_of_not_lt longEnough, Nat.le_of_not_lt notTooLong,
      true_and]
    exact eq_comm

theorem octets_setMessage (message : IcmpMessage)
    (long : headerLength ≤ packet.octets.length) :
    ∃ checksum, (packet.setMessage message).octets =
      [message.typeCode, message.code] ++ Octets.ofWord checksum ++
        Octets.ofWord message.identifier ++ Octets.ofWord message.sequenceNumber ++
          packet.data := by
  obtain ⟨octets⟩ := packet
  match octets, long with
  | _ :: _ :: _ :: _ :: _ :: _ :: _ :: _ :: _, _ => exact ⟨_, rfl⟩

theorem data_setMessage (message : IcmpMessage)
    (long : headerLength ≤ packet.octets.length) :
    (packet.setMessage message).data = packet.data := by
  obtain ⟨checksum, written⟩ := octets_setMessage message long
  rw [data, written]
  rfl

theorem message_setMessage (message : IcmpMessage)
    (long : headerLength ≤ packet.octets.length) :
    (packet.setMessage message).message = .ok message := by
  obtain ⟨checksum, written⟩ := octets_setMessage message long
  have typeCode : (packet.setMessage message).typeCode = message.typeCode := by
    rw [IcmpPacket.typeCode, written]
    rfl
  have code : (packet.setMessage message).code = message.code := by
    rw [IcmpPacket.code, written]
    rfl
  have identifier : (packet.setMessage message).identifier = message.identifier := by
    rw [IcmpPacket.identifier, written]
    exact Octets.word_ofWord _
  have sequenceNumber :
      (packet.setMessage message).sequenceNumber = message.sequenceNumber := by
    rw [IcmpPacket.sequenceNumber, written]
    exact Octets.word_ofWord _
  rw [IcmpPacket.message, typeCode, code, identifier, sequenceNumber]
  cases message <;> rfl

@[simp]
theorem length_setMessage (packet : IcmpPacket) (message : IcmpMessage) :
    (packet.setMessage message).octets.length = packet.octets.length := by
  simp only [setMessage, fillChecksum, setTypeCode, setCode, setIdentifier, setSequenceNumber,
    setChecksum, Octets.length_setOctet, Octets.length_setWord]

theorem verifyChecksum_setMessage (message : IcmpMessage)
    (long : headerLength ≤ packet.octets.length) (short : packet.octets.length ≤ 131074) :
    (packet.setMessage message).verifyChecksum = .ok () := by
  simp only [headerLength] at long
  have matching : (packet.setMessage message).computedChecksum = 0 := by
    apply internetChecksum_setWord_self _ 2 (by decide)
    · have start : 4 ≤ packet.octets.length := by omega
      simpa [setTypeCode, setCode, setIdentifier, setSequenceNumber] using start
    · simpa [setTypeCode, setCode, setIdentifier, setSequenceNumber] using short
  simp only [verifyChecksum, if_pos matching]

section OfMessage

variable {data : Octets}

@[simp]
theorem length_ofMessage (message : IcmpMessage) (data : Octets) :
    (ofMessage message data).octets.length = headerLength + data.length := by
  simp only [ofMessage, length_setMessage, List.length_append, List.length_replicate]

theorem data_ofMessage (message : IcmpMessage) (data : Octets) :
    (ofMessage message data).data = data :=
  data_setMessage message (by simp)

theorem message_ofMessage (message : IcmpMessage) (data : Octets) :
    (ofMessage message data).message = .ok message :=
  message_setMessage message (by simp)

theorem verifyChecksum_ofMessage (message : IcmpMessage)
    (short : headerLength + data.length ≤ 131074) :
    (ofMessage message data).verifyChecksum = .ok () :=
  verifyChecksum_setMessage message (by simp) (by simpa using short)

theorem ofOctets_ofMessage (message : IcmpMessage)
    (short : headerLength + data.length ≤ maximumLength) :
    ofOctets (ofMessage message data).octets = .ok (ofMessage message data) := by
  rw [ofOctets_eq_ok_iff, length_ofMessage]
  exact ⟨Nat.le_add_right _ _, short, rfl⟩

end OfMessage

end IcmpPacket

namespace Ipv4Header

variable {header : Ipv4Header} {payload : Octets}

/-- The header takes twenty octets, of which only the checksum depends on others. -/
theorem attach_eq (header : Ipv4Header) (payload : Octets) :
    ∃ checksum, header.attach payload =
      [0x45, 0] ++ Octets.ofWord header.packetLength.toUInt16 ++
        Octets.ofWord header.identification ++ Octets.ofWord 0 ++
        [header.timeToLive, header.protocol] ++ Octets.ofWord checksum ++
        header.source.toOctets ++ header.destination.toOctets ++ payload :=
  ⟨_, rfl⟩

/-- The header does not depend on what follows it. -/
theorem attach_eq_append (header : Ipv4Header) (payload : Octets) :
    header.attach payload = header.attach [] ++ payload := by
  have fits : 10 + 2 ≤ header.toOctets.length := by
    rw [length_toOctets]
    decide
  have headerEq : ∀ rest, (Ipv4Packet.mk (header.toOctets ++ rest)).header =
      header.toOctets := by
    intro rest
    rw [Ipv4Packet.header, headerLength_toOctets_append, ← header.length_toOctets, List.take_left]
  simp only [attach, Ipv4Packet.fillChecksum, Ipv4Packet.computedChecksum,
    Ipv4Packet.header_setHeaderChecksum, headerEq]
  simp only [Ipv4Packet.setHeaderChecksum, Octets.setWord, List.append_nil]
  rw [Octets.overwrite_append_left (by simpa using fits),
    Octets.overwrite_append_left (by simpa using fits)]

section Attach

variable (header payload)

@[simp]
theorem length_attach :
    (header.attach payload).length = Ipv4Packet.minimumHeaderLength + payload.length := by
  simp only [attach, Ipv4Packet.length_fillChecksum, List.length_append, length_toOctets]

theorem firstOctet_attach : (header.attach payload).octetAt 0 = 0x45 := by
  obtain ⟨checksum, written⟩ := header.attach_eq payload
  rw [written]
  rfl

theorem version_attach : (Ipv4Packet.mk (header.attach payload)).version = 4 := by
  rw [Ipv4Packet.version, firstOctet_attach]
  decide

theorem headerLength_attach :
    (Ipv4Packet.mk (header.attach payload)).headerLength = Ipv4Packet.minimumHeaderLength := by
  rw [Ipv4Packet.headerLength, firstOctet_attach]
  decide

theorem timeToLive_attach :
    (Ipv4Packet.mk (header.attach payload)).timeToLive = header.timeToLive := by
  obtain ⟨checksum, written⟩ := header.attach_eq payload
  rw [written]
  rfl

theorem protocol_attach :
    (Ipv4Packet.mk (header.attach payload)).protocol = header.protocol := by
  obtain ⟨checksum, written⟩ := header.attach_eq payload
  rw [written]
  rfl

theorem source_attach :
    (Ipv4Packet.mk (header.attach payload)).source = header.source := by
  obtain ⟨checksum, written⟩ := header.attach_eq payload
  rw [written]
  rfl

theorem destination_attach :
    (Ipv4Packet.mk (header.attach payload)).destination = header.destination := by
  obtain ⟨checksum, written⟩ := header.attach_eq payload
  rw [written]
  rfl

theorem drop_attach :
    (header.attach payload).drop Ipv4Packet.minimumHeaderLength = payload := by
  obtain ⟨checksum, written⟩ := header.attach_eq payload
  rw [written]
  rfl

end Attach

theorem totalLength_attach (payload : Octets) (short : header.packetLength ≤ 65535) :
    (Ipv4Packet.mk (header.attach payload)).totalLength = header.packetLength := by
  have lengthField : (header.attach payload).wordAt 2 = header.packetLength.toUInt16 := by
    obtain ⟨checksum, written⟩ := header.attach_eq payload
    rw [written]
    exact Octets.word_ofWord _
  rw [Ipv4Packet.totalLength, lengthField]
  exact UInt16.toNat_ofNat_of_lt' (Nat.lt_succ_of_le short)

theorem ofOctets_attach (short : header.packetLength ≤ 65535)
    (whole : header.payloadLength ≤ payload.length) :
    Ipv4Packet.ofOctets (header.attach payload) = .ok ⟨header.attach payload⟩ := by
  rw [Ipv4Packet.ofOctets_eq_ok_iff, length_attach, headerLength_attach,
    totalLength_attach payload short, packetLength]
  exact ⟨by omega, version_attach header payload, by omega, by omega, by omega, rfl⟩

theorem payload_attach (short : header.packetLength ≤ 65535) :
    (Ipv4Packet.mk (header.attach payload)).payload = payload.take header.payloadLength := by
  rw [Ipv4Packet.payload, headerLength_attach, drop_attach, totalLength_attach payload short,
    packetLength, Nat.add_sub_cancel_left]

end Ipv4Header

/-- An IPv4 packet holds an ICMP message with some data, from one address to another. -/
structure Ipv4Packet.Holds (packet : Ipv4Packet) (source destination : Ipv4Address)
    (message : IcmpMessage) (data : Octets) : Prop where
  sentBy : packet.source = source
  sentTo : packet.destination = destination
  protocol : packet.protocol = Ipv4Header.icmpProtocol
  intact : packet.verifyChecksum = .ok ()
  holds : ∃ icmp, IcmpPacket.ofOctets packet.payload = .ok icmp ∧
    icmp.verifyChecksum = .ok () ∧ icmp.message = .ok message ∧ icmp.data = data

theorem Ipv4Packet.Holds.data_eq {packet : Ipv4Packet}
    {source destination otherSource otherDestination : Ipv4Address}
    {message otherMessage : IcmpMessage} {data otherData : Octets}
    (holds : packet.Holds source destination message data)
    (other : packet.Holds otherSource otherDestination otherMessage otherData) :
    data = otherData := by
  obtain ⟨icmp, read, -, -, rfl⟩ := holds.holds
  obtain ⟨otherIcmp, otherRead, -, -, rfl⟩ := other.holds
  rw [read] at otherRead
  cases otherRead
  rfl

theorem Ipv4Header.holds_attach {header : Ipv4Header} (message : IcmpMessage) {data : Octets}
    (protocol : header.protocol = icmpProtocol)
    (whole : header.payloadLength = IcmpPacket.headerLength + data.length)
    (short : header.packetLength ≤ 65535) :
    (Ipv4Packet.mk (header.attach (IcmpPacket.ofMessage message data).octets)).Holds
      header.source header.destination message data where
  sentBy := header.source_attach _
  sentTo := header.destination_attach _
  protocol := (header.protocol_attach _).trans protocol
  intact := header.verifyChecksum_attach _
  holds := by
    have fits : IcmpPacket.headerLength + data.length ≤ IcmpPacket.maximumLength := by
      rw [packetLength, whole] at short
      simp only [IcmpPacket.maximumLength]
      omega
    refine ⟨IcmpPacket.ofMessage message data, ?_, ?_, ?_, ?_⟩
    · rw [payload_attach short, whole, ← IcmpPacket.length_ofMessage message, List.take_length]
      exact IcmpPacket.ofOctets_ofMessage message fits
    · exact IcmpPacket.verifyChecksum_ofMessage message (Nat.le_trans fits (by decide))
    · exact IcmpPacket.message_ofMessage message data
    · exact IcmpPacket.data_ofMessage message data

end Ipv4Router
