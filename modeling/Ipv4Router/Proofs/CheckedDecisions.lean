import Ipv4Router.Proofs.CheckedMessages

/-!
# Checked decisions

The decision about a datagram of others in checked operations, whether it has just
arrived, waited for its next hop or is given up.

All that an answer quotes or returns comes from a frame, which is short, so that no
length in it exceeds its register.  This is where a checked decision needs more than
the decision itself: the packet has to come from a frame, and to be a readable one.
-/

namespace Ipv4Router

open Checked

namespace Router

variable {router : Router} {identification : UInt16}

/-- Copy a header and the first octets of a payload behind it. -/
def checkedQuote (header payload : Octets) (quotedLength : Nat) (room : Octets) :
    Checked Octets := do
  let started ← room.checkedCopy 0 header.length header
  started.checkedCopy header.length started.length (← payload.checkedRange 0 quotedLength)

def checkedReportError (router : Router) (identification : UInt16) (arrival : Interface)
    (packet : Ipv4Packet) (message : IcmpMessage) : Checked (Except RouterError Outbound) := do
  let header ← packet.checkedHeader
  let payload ← packet.checkedPayload
  let quotedLength := min payload.length quotedPayloadLength
  let source ← packet.checkedSource
  router.checkedOriginateMessage identification arrival.address source message
    (header.length + quotedLength) (checkedQuote header payload quotedLength)

theorem checkedQuote_eq (header : Octets) {payload : Octets} {quotedLength : Nat}
    (inside : quotedLength ≤ payload.length) :
    checkedQuote header payload quotedLength
      (List.replicate (header.length + quotedLength) 0) =
        .ok (header ++ payload.take quotedLength) := by
  have quotedLengthEq : (payload.take quotedLength).length = quotedLength := by
    rw [List.length_take]
    omega
  have started : Octets.overwrite (List.replicate (header.length + quotedLength) 0) 0 header =
      header ++ List.replicate quotedLength 0 := by
    rw [Octets.overwrite_eq_append (by simp), List.drop_replicate, Nat.zero_add,
      Nat.add_sub_cancel_left]
    rfl
  rw [checkedQuote, Octets.checkedCopy_eq (Nat.zero_add _).symm (by simp), ok_bind, started,
    Octets.checkedRange_eq (Nat.zero_le _) inside, ok_bind, List.drop_zero,
    Octets.checkedCopy_eq (by simp [quotedLengthEq]) (Nat.le_refl _),
    Octets.overwrite_append_right (by simp [quotedLengthEq])]

/-- The header and eight octets of payload are few, whatever the packet. -/
theorem checkedReportError_eq {arrival : Interface} {packet : Ipv4Packet}
    {message : IcmpMessage} (read : Ipv4Packet.ofOctets packet.octets = .ok packet) :
    router.checkedReportError identification arrival packet message =
      .ok (router.reportError identification arrival packet message) := by
  have long := (Ipv4Packet.ofOctets_eq_ok_iff.mp read).1
  have headerShort := packet.length_header_le
  have takeMin : packet.payload.take (min packet.payload.length quotedPayloadLength) =
      packet.payload.take quotedPayloadLength := by
    rw [Nat.min_comm, ← List.take_take, List.take_length]
  have quotedLength : (packet.header ++ packet.payload.take quotedPayloadLength).length =
      packet.header.length + min packet.payload.length quotedPayloadLength := by
    rw [List.length_append, List.length_take, Nat.min_comm]
  have short : Ipv4Packet.minimumHeaderLength + (IcmpPacket.headerLength +
      (packet.header ++ packet.payload.take quotedPayloadLength).length) ≤ 65535 := by
    rw [quotedLength, Ipv4Packet.minimumHeaderLength, IcmpPacket.headerLength,
      quotedPayloadLength]
    omega
  have quoted := checkedQuote_eq packet.header
    (Nat.min_le_left packet.payload.length quotedPayloadLength)
  rw [takeMin, ← quotedLength] at quoted
  rw [checkedReportError, Ipv4Packet.checkedHeader_of_readable read, ok_bind,
    Ipv4Packet.checkedPayload_eq read, ok_bind, Ipv4Packet.checkedSource_eq long, ok_bind,
    ← quotedLength, checkedOriginateMessage_eq short quoted]
  rfl

def checkedAnswer (router : Router) (identification : UInt16) (arrival : Interface)
    (packet : Ipv4Packet) : Checked (Except RouterError Outbound) := do
  let protocol ← packet.checkedProtocol
  if protocol ≠ Ipv4Header.icmpProtocol then
    router.checkedReportError identification arrival packet .portUnreachable
  else
    match IcmpPacket.ofOctets (← packet.checkedPayload) with
    | .error fault => return .error (.packet fault)
    | .ok icmp =>
        match ← icmp.checkedVerify with
        | .error fault => return .error (.packet fault)
        | .ok () =>
            let typeCode ← icmp.checkedTypeCode
            if typeCode ≠ IcmpMessage.echoRequestType then
              router.checkedReportError identification arrival packet .hostUnreachable
            else
              let (identifier, sequenceNumber) ← icmp.checkedEcho
              let data ← icmp.checkedData
              router.checkedOriginateMessage identification (← packet.checkedDestination)
                (← packet.checkedSource) (.echoReply identifier sequenceNumber) data.length
                (fun room => room.checkedCopy 0 room.length data)

def checkedDispatch (router : Router) (identification : UInt16) (arrival : Interface)
    (octets : Octets) : Checked (Except RouterError Outbound) := do
  match ← Ipv4Packet.checkedOfFrame octets with
  | .error fault => return .error (.packet fault)
  | .ok packet =>
      match ← packet.checkedVerify with
      | .error fault => return .error (.packet fault)
      | .ok () =>
          let destination ← packet.checkedDestination
          if router.owns destination then
            router.checkedAnswer identification arrival packet
          else
            let timeToLive ← packet.checkedTimeToLive
            if timeToLive ≤ 1 then
              router.checkedReportError identification arrival packet .timeExceeded
            else
              match router.routes.lookup destination with
              | none => router.checkedReportError identification arrival packet .netUnreachable
              | some route =>
                  return router.sendAlong route destination ⟨octets, .forwarded arrival.name⟩

theorem checkedAnswer_eq {arrival : Interface} {packet : Ipv4Packet}
    (read : Ipv4Packet.ofOctets packet.octets = .ok packet)
    (short : packet.octets.length ≤ EthernetFrame.maximumLength) :
    router.checkedAnswer identification arrival packet =
      .ok (router.answer identification arrival packet) := by
  have long := (Ipv4Packet.ofOctets_eq_ok_iff.mp read).1
  simp only [EthernetFrame.maximumLength] at short
  have payloadShort : packet.payload.length ≤ 1518 := by
    rw [Ipv4Packet.payload, List.length_take, List.length_drop]
    omega
  simp only [checkedAnswer, answer, Ipv4Packet.checkedProtocol_eq long, ok_bind,
    Ipv4Packet.checkedPayload_eq read]
  split
  · exact checkedReportError_eq read
  cases accepted : IcmpPacket.ofOctets packet.payload with
  | error fault => rfl
  | ok icmp =>
      obtain ⟨icmpLong, icmpShort, same⟩ := IcmpPacket.ofOctets_eq_ok_iff.mp accepted
      have icmpLength : icmp.octets.length = packet.payload.length := by rw [same]
      rw [← icmpLength] at icmpLong payloadShort
      simp only [IcmpPacket.checkedVerify_eq (Nat.le_trans payloadShort (by decide)), ok_bind]
      cases icmp.verifyChecksum with
      | error fault => rfl
      | ok intact =>
          simp only [IcmpPacket.checkedTypeCode_eq icmpLong, ok_bind]
          split
          · exact checkedReportError_eq read
          have dataShort : Ipv4Packet.minimumHeaderLength +
              (IcmpPacket.headerLength + icmp.data.length) ≤ 65535 := by
            rw [Ipv4Packet.minimumHeaderLength, IcmpPacket.headerLength, IcmpPacket.data,
              List.length_drop]
            omega
          simp only [IcmpPacket.checkedEcho_eq icmpLong, IcmpPacket.checkedData_eq icmpLong,
            ok_bind, Ipv4Packet.checkedDestination_eq long, Ipv4Packet.checkedSource_eq long]
          exact checkedOriginateMessage_eq dataShort (Octets.checkedCopy_whole (by simp))

theorem checkedDispatch_eq {arrival : Interface} (octets : Octets) :
    router.checkedDispatch identification arrival octets =
      .ok (router.dispatch identification arrival octets) := by
  cases readable : Ipv4Packet.ofFrame octets with
  | error fault =>
      simp only [checkedDispatch, dispatch, Ipv4Packet.checkedOfFrame_eq, ok_bind, readable]
      rfl
  | ok packet =>
      obtain ⟨read, packetLength⟩ := Ipv4Packet.read_of_ofFrame readable
      have long := (Ipv4Packet.ofOctets_eq_ok_iff.mp read).1
      have short : packet.octets.length ≤ EthernetFrame.maximumLength := by
        have frameShort := (Ipv4Packet.ofFrame_eq_ok_iff.mp readable).2.1
        omega
      simp only [checkedDispatch, dispatch, Ipv4Packet.checkedOfFrame_eq, ok_bind, readable,
        Ipv4Packet.checkedVerify_eq read, Ipv4Packet.checkedDestination_eq long,
        Ipv4Packet.checkedTimeToLive_eq long]
      cases packet.verifyChecksum with
      | error fault => rfl
      | ok intact =>
          simp only
          split
          · exact checkedAnswer_eq read short
          split
          · exact checkedReportError_eq read
          cases router.routes.lookup packet.destination with
          | none => exact checkedReportError_eq read
          | some route => rfl

def checkedDispatchAgain (router : Router) (identification : UInt16) (frame : DatagramFrame) :
    Checked (Except RouterError Outbound) :=
  match frame.origin with
  | .originated => router.checkedOriginateFrame frame.octets
  | .forwarded name =>
      match router.interfaces.byName? name with
      | none => return .error (.configuration (.unknownInterface name))
      | some arrival => router.checkedDispatch identification arrival frame.octets

def checkedReportAbandoned (router : Router) (identification : UInt16) (frame : DatagramFrame) :
    Checked (Except RouterError Outbound) :=
  match frame.origin with
  | .originated => return .error .ignored
  | .forwarded name =>
      match router.interfaces.byName? name with
      | none => return .error .ignored
      | some arrival => do
          match ← Ipv4Packet.checkedOfFrame frame.octets with
          | .error fault => return .error (.packet fault)
          | .ok packet =>
              router.checkedReportError identification arrival packet .hostUnreachable

theorem checkedDispatchAgain_eq (frame : DatagramFrame) :
    router.checkedDispatchAgain identification frame =
      .ok (router.dispatchAgain identification frame) := by
  unfold checkedDispatchAgain dispatchAgain
  cases frame.origin with
  | originated => exact checkedOriginateFrame_eq _
  | forwarded name =>
      cases known : router.interfaces.byName? name with
      | none => simp only [known]; rfl
      | some arrival => simp only [known, checkedDispatch_eq]

theorem checkedReportAbandoned_eq (frame : DatagramFrame) :
    router.checkedReportAbandoned identification frame =
      .ok (router.reportAbandoned identification frame) := by
  unfold checkedReportAbandoned reportAbandoned
  cases frame.origin with
  | originated => rfl
  | forwarded name =>
      cases known : router.interfaces.byName? name with
      | none => simp only [known]; rfl
      | some arrival =>
          simp only [known, Ipv4Packet.checkedOfFrame_eq, ok_bind]
          cases readable : Ipv4Packet.ofFrame frame.octets with
          | error fault => rfl
          | ok packet => exact checkedReportError_eq (Ipv4Packet.read_of_ofFrame readable).1

end Router

end Ipv4Router
