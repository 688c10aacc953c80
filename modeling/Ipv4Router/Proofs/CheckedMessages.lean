import Ipv4Router.Proofs.CheckedPackets

/-!
# Checked messages

A datagram of the router's own in checked operations.  It is composed in place: an
empty string of the right length is filled with the header of the packet, the data and
the header of the ICMP message, each through a view of the others, and the whole is
copied into an empty frame in the end.

What is composed like this is what is written at once, as long as the packet is short
enough for its length to fit a word.
-/

namespace Ipv4Router

open Checked

/-- Read the IPv4 packet that an Ethernet frame carries. -/
def Ipv4Packet.checkedOfFrame (octets : Octets) : Checked (Except PacketError Ipv4Packet) :=
  match EthernetFrame.ofOctets octets with
  | .error fault => return .error fault
  | .ok frame => do Ipv4Packet.checkedOfOctets (← frame.checkedPayload)

theorem Ipv4Packet.checkedOfFrame_eq (octets : Octets) :
    checkedOfFrame octets = .ok (ofFrame octets) := by
  cases accepted : EthernetFrame.ofOctets octets with
  | error fault =>
      simp only [checkedOfFrame, ofFrame, accepted]
      rfl
  | ok frame =>
      obtain ⟨long, -, rfl⟩ := EthernetFrame.ofOctets_eq_ok_iff.mp accepted
      simp only [checkedOfFrame, ofFrame, accepted, EthernetFrame.checkedPayload_eq long,
        ok_bind, checkedOfOctets_eq]

/-- Fill the place for the data of an ICMP packet, then write a message over its header. -/
def IcmpPacket.checkedCompose (packet : IcmpPacket) (message : IcmpMessage)
    (fill : Octets → Checked Octets) : Checked IcmpPacket := do
  let data ← fill (← packet.checkedData)
  let filled ← packet.octets.checkedCopy IcmpPacket.headerLength packet.octets.length data
  IcmpPacket.checkedSetMessage ⟨filled⟩ message

/-- Compose an ICMP message in the place of the payload of a packet. -/
def Ipv4Packet.checkedCompose (packet : Ipv4Packet) (message : IcmpMessage)
    (fill : Octets → Checked Octets) : Checked (Except PacketError Octets) := do
  match IcmpPacket.ofOctets (← packet.checkedPayload) with
  | .error fault => return .error fault
  | .ok icmp =>
      let composed ← icmp.checkedCompose message fill
      return .ok (← packet.octets.checkedCopy (← packet.checkedHeaderLength)
        (← packet.checkedTotalLength) composed.octets)

section Compose

variable {message : IcmpMessage} {data : Octets} {fill : Octets → Checked Octets}

theorem IcmpPacket.checkedCompose_eq (filled : fill (List.replicate data.length 0) = .ok data)
    (short : headerLength + data.length ≤ 131074) :
    checkedCompose ⟨List.replicate (headerLength + data.length) 0⟩ message fill =
      .ok (ofMessage message data) := by
  have written : checkedSetMessage ⟨List.replicate headerLength 0 ++ data⟩ message =
      .ok (ofMessage message data) :=
    checkedSetMessage_eq (by simp) message
      (by rw [List.length_append, List.length_replicate]; exact short)
  have placed : Octets.overwrite (List.replicate (headerLength + data.length) 0) headerLength
      data = List.replicate headerLength 0 ++ data := by
    rw [← List.replicate_append_replicate]
    exact Octets.overwrite_append_right (by simp)
  rw [checkedCompose, checkedData_eq (by simp), ok_bind, IcmpPacket.data, List.drop_replicate,
    Nat.add_sub_cancel_left, filled, ok_bind, Octets.checkedCopy_eq (by simp) (Nat.le_refl _),
    ok_bind, placed, written]

/-- A message that is composed in an empty packet comes out as it would be written. -/
theorem Ipv4Packet.checkedCompose_eq {packet : Ipv4Packet} {header : Ipv4Header}
    (empty : packet.octets = header.attach (List.replicate header.payloadLength 0))
    (filled : fill (List.replicate data.length 0) = .ok data)
    (whole : header.payloadLength = IcmpPacket.headerLength + data.length)
    (short : header.packetLength ≤ 65535) :
    packet.checkedCompose message fill =
      .ok (.ok (header.attach (IcmpPacket.ofMessage message data).octets)) := by
  have room : header.packetLength = minimumHeaderLength +
      (IcmpPacket.headerLength + data.length) := by
    rw [Ipv4Header.packetLength, whole]
  have same : packet = ⟨header.attach (List.replicate header.payloadLength 0)⟩ :=
    congrArg Ipv4Packet.mk empty
  have read : ofOctets packet.octets = .ok packet := by
    rw [same]
    exact Ipv4Header.ofOctets_attach short (by simp)
  have long := (ofOctets_eq_ok_iff.mp read).1
  have headerLength : packet.headerLength = (header.attach []).length := by
    rw [same, Ipv4Header.headerLength_attach, Ipv4Header.length_attach]
    rfl
  have totalLength : packet.totalLength = header.packetLength := by
    rw [same, Ipv4Header.totalLength_attach _ short]
  have payload : packet.payload = List.replicate (IcmpPacket.headerLength + data.length) 0 := by
    rw [same, Ipv4Header.payload_attach short, List.take_of_length_le (by simp), whole]
  have accepted : IcmpPacket.ofOctets (List.replicate (IcmpPacket.headerLength + data.length) 0) =
      .ok ⟨List.replicate (IcmpPacket.headerLength + data.length) 0⟩ := by
    rw [IcmpPacket.ofOctets_eq_ok_iff, List.length_replicate]
    exact ⟨Nat.le_add_right _ _, by simp only [IcmpPacket.maximumLength]; omega, rfl⟩
  have composed : IcmpPacket.checkedCompose
      ⟨List.replicate (IcmpPacket.headerLength + data.length) 0⟩ message fill =
        .ok (IcmpPacket.ofMessage message data) :=
    IcmpPacket.checkedCompose_eq filled (by omega)
  have written : packet.octets.overwrite (header.attach []).length
      (IcmpPacket.ofMessage message data).octets =
        header.attach (IcmpPacket.ofMessage message data).octets := by
    rw [empty, Ipv4Header.attach_eq_append, Octets.overwrite_append_right (by simp [whole]),
      ← Ipv4Header.attach_eq_append]
  simp only [checkedCompose, checkedPayload_eq read, payload, ok_bind, accepted, composed,
    checkedHeaderLength_eq long, checkedTotalLength_eq long, headerLength, totalLength]
  rw [Octets.checkedCopy_eq, written]
  · rfl
  · simp [room, minimumHeaderLength]
  · simp [empty, Ipv4Header.packetLength]

end Compose

/-- Write a header over an empty string and compose an ICMP message behind it. -/
def Ipv4Header.checkedWriteMessage (header : Ipv4Header) (message : IcmpMessage)
    (fill : Octets → Checked Octets) : Checked (Except PacketError Octets) := do
  match ← header.checkedWriteInto (List.replicate header.packetLength 0) with
  | .error fault => return .error fault
  | .ok octets =>
      match ← Ipv4Packet.checkedOfOctets octets with
      | .error fault => return .error fault
      | .ok packet => packet.checkedCompose message fill

theorem Ipv4Header.checkedWriteMessage_eq {header : Ipv4Header} {message : IcmpMessage}
    {data : Octets} {fill : Octets → Checked Octets}
    (filled : fill (List.replicate data.length 0) = .ok data)
    (whole : header.payloadLength = IcmpPacket.headerLength + data.length)
    (short : header.packetLength ≤ 65535) :
    header.checkedWriteMessage message fill =
      .ok (.ok (header.attach (IcmpPacket.ofMessage message data).octets)) := by
  have written : header.writeInto (List.replicate header.packetLength 0) =
      .ok (header.attach (List.replicate header.payloadLength 0)) := by
    have notShort : ¬ (List.replicate header.packetLength (0 : UInt8)).length <
        header.packetLength := by simp
    rw [writeInto, if_neg notShort, List.drop_replicate, packetLength, Nat.add_sub_cancel_left]
  have read : Ipv4Packet.ofOctets (header.attach (List.replicate header.payloadLength 0)) =
      .ok ⟨header.attach (List.replicate header.payloadLength 0)⟩ :=
    ofOctets_attach short (by simp)
  have composed : Ipv4Packet.checkedCompose
      ⟨header.attach (List.replicate header.payloadLength 0)⟩ message fill =
        .ok (.ok (header.attach (IcmpPacket.ofMessage message data).octets)) :=
    Ipv4Packet.checkedCompose_eq rfl filled whole short
  simp only [checkedWriteMessage, checkedWriteInto_eq _ short, ok_bind, written,
    Ipv4Packet.checkedOfOctets_eq, read, composed]

namespace Router

variable {router : Router} {identification : UInt16}

def checkedOriginateFrame (router : Router) (octets : Octets) :
    Checked (Except RouterError Outbound) := do
  match ← Ipv4Packet.checkedOfFrame octets with
  | .error fault => return .error (.packet fault)
  | .ok packet =>
      let destination ← packet.checkedDestination
      match router.routes.lookup destination with
      | none => return .error (.noRoute destination)
      | some route => return router.sendAlong route destination ⟨octets, .originated⟩

/-- Copy a datagram into an empty frame, which is then sent. -/
def checkedOriginateDatagram (router : Router) (datagram : Octets) :
    Checked (Except RouterError Outbound) :=
  match EthernetFrame.ofOctets
      (List.replicate (EthernetFrame.headerLength + datagram.length) 0) with
  | .error fault => return .error (.packet fault)
  | .ok frame => do
      let frame ← frame.checkedSetPayloadType EthernetFrame.ipv4Type
      let frame ← frame.checkedSetPayload datagram
      router.checkedOriginateFrame frame.octets

/-- The header of the datagrams in which the router sends its ICMP messages. -/
def icmpHeader (router : Router) (identification : UInt16) (source destination : Ipv4Address)
    (payloadLength : Nat) : Ipv4Header where
  source := source
  destination := destination
  protocol := Ipv4Header.icmpProtocol
  timeToLive := router.settings.icmpTimeToLive
  identification := identification
  payloadLength := payloadLength

/-- Send an ICMP message with some data of the given length, which is filled into the
place for it.  The length of the packet is narrowed to a word. -/
def checkedOriginateMessage (router : Router) (identification : UInt16)
    (source destination : Ipv4Address) (message : IcmpMessage) (dataLength : Nat)
    (fill : Octets → Checked Octets) : Checked (Except RouterError Outbound) := do
  let payloadLength ← checkedWord (IcmpPacket.headerLength + dataLength)
  let header := router.icmpHeader identification source destination payloadLength.toNat
  match ← header.checkedWriteMessage message fill with
  | .error fault => return .error (.packet fault)
  | .ok datagram => router.checkedOriginateDatagram datagram

theorem checkedOriginateFrame_eq (octets : Octets) :
    router.checkedOriginateFrame octets = .ok (router.originateFrame octets) := by
  cases readable : Ipv4Packet.ofFrame octets with
  | error fault =>
      simp only [checkedOriginateFrame, originateFrame, Ipv4Packet.checkedOfFrame_eq, ok_bind,
        readable]
      rfl
  | ok packet =>
      obtain ⟨read, -⟩ := Ipv4Packet.read_of_ofFrame readable
      have long := (Ipv4Packet.ofOctets_eq_ok_iff.mp read).1
      simp only [checkedOriginateFrame, originateFrame, Ipv4Packet.checkedOfFrame_eq, ok_bind,
        readable, Ipv4Packet.checkedDestination_eq long]
      cases router.routes.lookup packet.destination <;> rfl

/-- A datagram that is copied into an empty frame makes a frame whose addresses are
open. -/
theorem checkedOriginateDatagram_eq (datagram : Octets) :
    router.checkedOriginateDatagram datagram = .ok (router.originateDatagram datagram) := by
  rw [checkedOriginateDatagram, originateDatagram, EthernetFrame.replicate_eq_assemble]
  cases accepted : EthernetFrame.ofOctets (EthernetFrame.assemble .unspecified .unspecified 0
      (List.replicate datagram.length 0)) with
  | error fault =>
      have refused : EthernetFrame.ofOctets (EthernetFrame.assemble .unspecified .unspecified
          EthernetFrame.ipv4Type datagram) = .error fault :=
        EthernetFrame.ofOctets_eq_error (by simp) accepted
      simp only [originateFrame, Ipv4Packet.ofFrame, refused]
      rfl
  | ok frame =>
      obtain ⟨-, -, rfl⟩ := EthernetFrame.ofOctets_eq_ok_iff.mp accepted
      simp only [EthernetFrame.checkedSetPayloadType_assemble, ok_bind]
      rw [EthernetFrame.checkedSetPayload_assemble (by simp), ok_bind, checkedOriginateFrame_eq]

section Message

variable {source destination : Ipv4Address} {message : IcmpMessage} {data : Octets}
  (short : Ipv4Packet.minimumHeaderLength + (IcmpPacket.headerLength + data.length) ≤ 65535)
include short

theorem originateMessage_of_short :
    router.originateMessage identification source destination message data =
      router.originateDatagram ((router.icmpHeader identification source destination
        (IcmpPacket.headerLength + data.length)).attach
          (IcmpPacket.ofMessage message data).octets) := by
  have notWrapped : (IcmpPacket.headerLength + data.length) % 65536 =
      IcmpPacket.headerLength + data.length := Nat.mod_eq_of_lt (by omega)
  have notLong : ¬ 65535 <
      Ipv4Packet.minimumHeaderLength + (IcmpPacket.headerLength + data.length) := by omega
  have notShort : ¬ IcmpPacket.headerLength + data.length < IcmpPacket.headerLength := by omega
  simp only [originateMessage, notWrapped, if_neg notLong, if_neg notShort,
    Nat.add_sub_cancel_left, List.take_length]
  rfl

theorem checkedOriginateMessage_eq {fill : Octets → Checked Octets}
    (filled : fill (List.replicate data.length 0) = .ok data) :
    router.checkedOriginateMessage identification source destination message data.length fill =
      .ok (router.originateMessage identification source destination message data) := by
  have small : IcmpPacket.headerLength + data.length < UInt16.size := by
    simp only [UInt16.size]
    omega
  have narrow : checkedWord (IcmpPacket.headerLength + data.length) =
      .ok (IcmpPacket.headerLength + data.length).toUInt16 :=
    provided_eq small _ _
  have sameLength : (IcmpPacket.headerLength + data.length).toUInt16.toNat =
      IcmpPacket.headerLength + data.length :=
    UInt16.toNat_ofNat_of_lt' small
  have written : (router.icmpHeader identification source destination
      (IcmpPacket.headerLength + data.length)).checkedWriteMessage message fill =
        .ok (.ok ((router.icmpHeader identification source destination
          (IcmpPacket.headerLength + data.length)).attach
            (IcmpPacket.ofMessage message data).octets)) :=
    Ipv4Header.checkedWriteMessage_eq filled rfl short
  simp only [checkedOriginateMessage, narrow, ok_bind, sameLength, written,
    checkedOriginateDatagram_eq, originateMessage_of_short short]

end Message

end Router

end Ipv4Router
