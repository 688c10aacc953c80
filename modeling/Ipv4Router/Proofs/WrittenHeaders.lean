import Ipv4Router.Proofs.CheckedPackets

/-!
# Written headers are read back

A header is written into an octet string that still holds something else, one field after the
other, and its checksum last.  What stood in the twenty octets before does not matter: each of
them belongs to a field that is written, and the checksum is cleared before it is computed.

The length field holds the packet length modulo `65536`, so it is right as long as header and
payload together do not exceed `65535` octets.  The payload length is itself a word.  For the
twenty greatest payload lengths the field wraps around to less than the length of the header, and
this contradiction is what makes the packet unreadable.
-/

namespace Ipv4Router

namespace Ipv4Header

/-- Set the fields of a header without options, whatever they were, and the checksum last. -/
def setFields (header : Ipv4Header) (packet : Ipv4Packet) : Ipv4Packet :=
  (packet.setVersionAndHeaderLength 4 20
    |>.setTypeOfService 0
    |>.setTotalLength header.packetLength.toUInt16
    |>.setIdentification header.identification
    |>.setFlagsAndFragmentOffset 0
    |>.setTimeToLive header.timeToLive
    |>.setProtocol header.protocol
    |>.setSource header.source
    |>.setDestination header.destination).fillChecksum

/-- Write a header in place.  The result is what the octet string holds afterwards, and whether
there was room for the whole packet. -/
def writeInPlace (header : Ipv4Header) (octets : Octets) : Octets × Except PacketError Unit :=
  if octets.length < header.packetLength then (octets, .error .tooShort)
  else ((header.setFields ⟨octets⟩).octets, .ok ())

variable {header : Ipv4Header} {octets : Octets}

theorem octets_setFields (header : Ipv4Header)
    (long : Ipv4Packet.minimumHeaderLength ≤ octets.length) :
    (header.setFields ⟨octets⟩).octets =
      header.attach (octets.drop Ipv4Packet.minimumHeaderLength) := by
  have fieldsEq : header.setFields ⟨octets⟩ =
      (Ipv4Packet.mk (header.overlay octets)).fillChecksum :=
    rfl
  rw [fieldsEq, fillChecksum_overlay header long]

theorem writeInPlace_of_short (short : octets.length < header.packetLength) :
    header.writeInPlace octets = (octets, .error .tooShort) :=
  if_pos short

theorem writeInPlace_of_long (long : header.packetLength ≤ octets.length) :
    header.writeInPlace octets =
      (header.attach (octets.drop Ipv4Packet.minimumHeaderLength), .ok ()) := by
  have headerFits : Ipv4Packet.minimumHeaderLength ≤ octets.length :=
    Nat.le_trans (Nat.le_add_right _ _) long
  rw [writeInPlace, if_neg (Nat.not_lt_of_le long), octets_setFields header headerFits]

theorem writeInPlace_eq_tooShort_iff :
    header.writeInPlace octets = (octets, .error .tooShort) ↔
      octets.length < header.packetLength := by
  constructor
  · intro refused
    rcases Nat.lt_or_ge octets.length header.packetLength with short | long
    · exact short
    · rw [writeInPlace_of_long long] at refused
      cases congrArg Prod.snd refused
  · exact writeInPlace_of_short

theorem writeInto_eq (header : Ipv4Header) (octets : Octets) :
    header.writeInto octets =
      (header.writeInPlace octets).2.map (fun _ => (header.writeInPlace octets).1) := by
  rcases Nat.lt_or_ge octets.length header.packetLength with short | long
  · rw [writeInPlace_of_short short, writeInto, if_pos short]
    rfl
  · rw [writeInPlace_of_long long, writeInto, if_neg (Nat.not_lt_of_le long)]
    rfl

/-- A packet starts with a header: it shows its fields and the checksum matches. -/
structure Heads (header : Ipv4Header) (packet : Ipv4Packet) : Prop where
  version : packet.version = 4
  headerLength : packet.headerLength = 20
  typeOfService : packet.typeOfService = 0
  totalLength : packet.totalLength = 20 + header.payloadLength
  identification : packet.identification = header.identification
  flagsAndFragmentOffset : packet.flagsAndFragmentOffset = 0
  timeToLive : packet.timeToLive = header.timeToLive
  protocol : packet.protocol = header.protocol
  source : packet.source = header.source
  destination : packet.destination = header.destination
  intact : packet.verifyChecksum = .ok ()

section Attach

variable (header) (payload : Octets)

theorem typeOfService_attach :
    (Ipv4Packet.mk (header.attach payload)).typeOfService = 0 := by
  obtain ⟨checksum, written⟩ := header.attach_eq payload
  rw [written]
  rfl

theorem identification_attach :
    (Ipv4Packet.mk (header.attach payload)).identification = header.identification := by
  obtain ⟨checksum, written⟩ := header.attach_eq payload
  rw [written]
  exact Octets.word_ofWord _

theorem flagsAndFragmentOffset_attach :
    (Ipv4Packet.mk (header.attach payload)).flagsAndFragmentOffset = 0 := by
  obtain ⟨checksum, written⟩ := header.attach_eq payload
  rw [written]
  exact Octets.word_ofWord _

/-- The length field keeps what a word can hold of the packet length. -/
theorem totalLength_attach_mod :
    (Ipv4Packet.mk (header.attach payload)).totalLength = header.packetLength % 65536 := by
  have lengthField : (header.attach payload).wordAt 2 = header.packetLength.toUInt16 := by
    obtain ⟨checksum, written⟩ := header.attach_eq payload
    rw [written]
    exact Octets.word_ofWord _
  rw [Ipv4Packet.totalLength, lengthField]
  exact UInt16.toNat_ofNat'

end Attach

theorem heads_attach (payload : Octets) (short : header.packetLength ≤ 65535) :
    header.Heads ⟨header.attach payload⟩ where
  version := header.version_attach payload
  headerLength := header.headerLength_attach payload
  typeOfService := header.typeOfService_attach payload
  totalLength := totalLength_attach payload short
  identification := header.identification_attach payload
  flagsAndFragmentOffset := header.flagsAndFragmentOffset_attach payload
  timeToLive := header.timeToLive_attach payload
  protocol := header.protocol_attach payload
  source := header.source_attach payload
  destination := header.destination_attach payload
  intact := header.verifyChecksum_attach payload

/-- A packet whose length does not fit the length field is told to be shorter than its own
header. -/
theorem ofOctets_attach_of_wrapped (payload : Octets) (wrapped : 65535 < header.packetLength)
    (word : header.payloadLength ≤ 65535) :
    Ipv4Packet.ofOctets (header.attach payload) = .error .malformed := by
  have long : ¬ (header.attach payload).length < Ipv4Packet.minimumHeaderLength := by
    rw [length_attach]
    omega
  have contradictory : ¬ (Ipv4Packet.mk (header.attach payload)).headerLength ≤
      (Ipv4Packet.mk (header.attach payload)).totalLength := by
    rw [headerLength_attach, totalLength_attach_mod]
    simp only [packetLength, Ipv4Packet.minimumHeaderLength] at wrapped ⊢
    omega
  simp only [Ipv4Packet.ofOctets, if_neg long]
  exact if_neg (fun fields => contradictory fields.2.2.1)

/-- A header whose payload length is a word is written in place if there is room for the whole
packet, and otherwise nothing is written.  What follows the header stays as it was.

The written string is a packet exactly if header and payload fit the length field.  The packet
then shows the fields of the header, its checksum matches, and its payload is as much of what
follows the header as the header tells.  All this holds whatever the string held before. -/
theorem written_headers_read_back (header : Ipv4Header) (octets : Octets)
    (word : header.payloadLength ≤ 65535) :
    (header.writeInPlace octets = (octets, .error .tooShort) ↔
      octets.length < 20 + header.payloadLength) ∧
    header.writeInto octets =
      (header.writeInPlace octets).2.map (fun _ => (header.writeInPlace octets).1) ∧
    (20 + header.payloadLength ≤ octets.length → ∃ written,
      header.writeInPlace octets = (written, .ok ()) ∧
      written.length = octets.length ∧ written.drop 20 = octets.drop 20 ∧
      ((∃ packet, Ipv4Packet.ofOctets written = .ok packet) ↔ header.payloadLength ≤ 65515) ∧
      (∀ packet, Ipv4Packet.ofOctets written = .ok packet →
        header.Heads packet ∧ packet.payload = (octets.drop 20).take header.payloadLength) ∧
      (65515 < header.payloadLength → Ipv4Packet.ofOctets written = .error .malformed)) := by
  have lengthEq : header.packetLength = 20 + header.payloadLength := rfl
  refine ⟨writeInPlace_eq_tooShort_iff, header.writeInto_eq octets, ?_⟩
  intro long
  let payload := octets.drop 20
  have payloadLength : payload.length = octets.length - 20 := List.length_drop
  refine ⟨header.attach payload, writeInPlace_of_long long, ?_, header.drop_attach payload, ?_⟩
  · rw [length_attach, payloadLength, Ipv4Packet.minimumHeaderLength]
    omega
  rcases Nat.lt_or_ge 65515 header.payloadLength with wrapped | fits
  · have refused : Ipv4Packet.ofOctets (header.attach payload) = .error .malformed :=
      ofOctets_attach_of_wrapped payload (by omega) word
    refine ⟨?_, ?_, fun _ => refused⟩
    · rw [refused]
      simpa using wrapped
    · intro packet read
      rw [refused] at read
      cases read
  · have short : header.packetLength ≤ 65535 := by omega
    have accepted := ofOctets_attach short (by omega : header.payloadLength ≤ payload.length)
    refine ⟨⟨fun _ => fits, fun _ => ⟨_, accepted⟩⟩, ?_, ?_⟩
    · intro packet read
      rw [accepted] at read
      cases read
      exact ⟨heads_attach payload short, payload_attach short⟩
    · intro wrapped
      omega

/-- The greatest payload length that fits the length field, and the one after it, each written
over an octet string that is full of ones and goes on behind the packet. -/
theorem written_headers_read_back_extremes :
    let fitting : Ipv4Header := ⟨⟨10, 0, 0, 1⟩, ⟨10, 0, 0, 2⟩, 17, 9, 0x1234, 65515⟩
    let wrapping : Ipv4Header := { fitting with payloadLength := 65516 }
    let octets : Octets := List.replicate 65540 0xFF
    (∃ packet, Ipv4Packet.ofOctets (fitting.writeInPlace octets).1 = .ok packet ∧
      fitting.Heads packet ∧ packet.payload = List.replicate 65515 0xFF) ∧
    (wrapping.writeInPlace octets).2 = .ok () ∧
    Ipv4Packet.ofOctets (wrapping.writeInPlace octets).1 = .error .malformed := by
  intro fitting wrapping octets
  have long : octets.length = 65540 := List.length_replicate ..
  have payloadEq : (octets.drop 20).take 65515 = List.replicate 65515 0xFF := by
    rw [List.drop_replicate, List.take_replicate]
    congr
  constructor
  · obtain ⟨-, -, writes⟩ := written_headers_read_back fitting octets (by decide)
    obtain ⟨written, wrote, -, -, readable, shows, -⟩ := writes (by rw [long]; decide)
    obtain ⟨packet, read⟩ := readable.mpr (by decide)
    obtain ⟨heads, payload⟩ := shows packet read
    rw [wrote]
    exact ⟨packet, read, heads, payload.trans payloadEq⟩
  · obtain ⟨-, -, writes⟩ := written_headers_read_back wrapping octets (by decide)
    obtain ⟨written, wrote, -, -, -, -, refused⟩ := writes (by rw [long]; decide)
    rw [wrote]
    exact ⟨rfl, refused (by decide)⟩

end Ipv4Header

end Ipv4Router
