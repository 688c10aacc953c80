import Ipv4Router.Proofs.CheckedPackets

/-!
# Checked completion

The completion of a frame in checked operations.  A forwarded datagram is cut out of
the frame in which it arrived, and its addresses, time to live and checksum are set in
what was cut out.

A frame can be completed if it holds a readable datagram, which has a unit of its time
to live left if it is forwarded.  Every decision leaves such a frame, whatever it is
made about.
-/

namespace Ipv4Router

open Checked

namespace Ipv4Packet

/-- Write the time to live that is left after the given one, and a checksum to match. -/
def checkedAge (packet : Ipv4Packet) (timeToLive : UInt8) : Checked Ipv4Packet := do
  let aged ← packet.checkedSetTimeToLive (← checkedPred timeToLive)
  aged.checkedFillChecksum

variable {packet : Ipv4Packet} (read : ofOctets packet.octets = .ok packet)
include read

theorem checkedAge_datagram (alive : 1 ≤ packet.timeToLive.toNat) :
    checkedAge ⟨packet.datagram⟩ packet.timeToLive = .ok packet.onward := by
  obtain ⟨-, -, minimum, ordered, total, -⟩ := ofOctets_eq_ok_iff.mp read
  have totalLong := Nat.le_trans minimum ordered
  have trimmedLong : minimumHeaderLength ≤ (Ipv4Packet.mk packet.datagram).octets.length := by
    rw [length_datagram total]
    exact totalLong
  have shape := sameShape_datagram totalLong
  have pred : checkedPred packet.timeToLive = .ok (packet.timeToLive - 1) :=
    provided_eq alive _ _
  rw [checkedAge, pred, ok_bind, checkedSetTimeToLive_eq (packet.timeToLive - 1) trimmedLong,
    ok_bind, checkedFillChecksum_eq, onward, timeToLive_datagram totalLong]
  · simpa only [setTimeToLive, Octets.length_setOctet] using trimmedLong
  · rw [(sameShape_setTimeToLive _ _).headerLength_eq, shape.headerLength_eq, setTimeToLive,
      Octets.length_setOctet, length_datagram total]
    exact ordered

/-- Where no time is left to live, none can be taken away. -/
example : checkedAge ⟨0x45 :: List.replicate 19 0⟩ 0 = .error .overflow := rfl

end Ipv4Packet

namespace Outbound

/-- A frame that can be completed holds a readable datagram, which has a unit of its
time to live left if it is forwarded. -/
def Completable (outbound : Outbound) : Prop :=
  ∃ packet, Ipv4Packet.ofFrame outbound.frame.octets = .ok packet ∧
    ∀ name, outbound.frame.origin = .forwarded name → 1 ≤ packet.timeToLive.toNat

/-- Cut a frame off behind the packet in it. -/
def checkedCut (frame : EthernetFrame) (packet : Ipv4Packet) :
    Checked (Except PacketError EthernetFrame) := do
  let stop ← packet.checkedTotalLength
  return EthernetFrame.ofOctets
    (← frame.octets.checkedRange 0 (EthernetFrame.headerLength + stop))

/-- Age the packet in a frame. -/
def checkedAgeWithin (frame : EthernetFrame) (timeToLive : UInt8) :
    Checked (Except PacketError Octets) := do
  match ← Ipv4Packet.checkedOfOctets (← frame.checkedPayload) with
  | .error fault => return .error fault
  | .ok packet =>
      let aged ← packet.checkedAge timeToLive
      let frame ← frame.checkedSetPayload aged.octets
      return .ok frame.octets

def checkedForward (frame : EthernetFrame) (destination source : MacAddress) :
    Checked (Except PacketError Octets) := do
  let payload ← frame.checkedPayload
  let timeToLive ← Ipv4Packet.checkedTimeToLive ⟨payload⟩
  match ← checkedCut frame ⟨payload⟩ with
  | .error fault => return .error fault
  | .ok cut => checkedAgeWithin (← cut.checkedSetAddresses destination source) timeToLive

def checkedComplete (outbound : Outbound) (mac : MacAddress) :
    Checked (Except PacketError Octets) :=
  match outbound.frame.origin with
  | .originated =>
      match EthernetFrame.ofOctets outbound.frame.octets with
      | .error fault => return .error fault
      | .ok frame => do
          let frame ← frame.checkedSetAddresses mac outbound.egress.mac
          return .ok frame.octets
  | .forwarded _ => checkedForward ⟨outbound.frame.octets⟩ mac outbound.egress.mac

theorem checkedCut_eq {frame : EthernetFrame} {packet : Ipv4Packet}
    (readable : Ipv4Packet.ofFrame frame.octets = .ok packet)
    (payload : frame.payload = packet.octets) :
    checkedCut frame packet = .ok (.ok ⟨EthernetFrame.assemble frame.destination frame.source
      frame.payloadType packet.datagram⟩) := by
  obtain ⟨frameLong, frameShort, -⟩ := Ipv4Packet.ofFrame_eq_ok_iff.mp readable
  obtain ⟨read, frameLength⟩ := Ipv4Packet.read_of_ofFrame readable
  obtain ⟨long, -, -, -, total, -⟩ := Ipv4Packet.ofOctets_eq_ok_iff.mp read
  have cut : frame.octets.take (EthernetFrame.headerLength + packet.totalLength) =
      EthernetFrame.assemble frame.destination frame.source frame.payloadType
        packet.datagram := by
    rw [EthernetFrame.take_octets frameLong, payload]
    rfl
  rw [checkedCut, Ipv4Packet.checkedTotalLength_eq long, ok_bind,
    Octets.checkedRange_eq (Nat.zero_le _) (by omega), ok_bind, List.drop_zero, cut]
  apply congrArg Except.ok
  rw [EthernetFrame.ofOctets_eq_ok_iff, EthernetFrame.length_assemble,
    Ipv4Packet.length_datagram total]
  exact ⟨by omega, by omega, rfl⟩

theorem checkedAgeWithin_eq {destination source : MacAddress} {payloadType : UInt16}
    {packet : Ipv4Packet} (read : Ipv4Packet.ofOctets packet.octets = .ok packet)
    (alive : 1 ≤ packet.timeToLive.toNat) :
    checkedAgeWithin ⟨EthernetFrame.assemble destination source payloadType packet.datagram⟩
      packet.timeToLive =
        .ok (.ok (EthernetFrame.assemble destination source payloadType
          packet.onward.octets)) := by
  have total := (Ipv4Packet.ofOctets_eq_ok_iff.mp read).2.2.2.2.1
  have sameLength : packet.onward.octets.length = packet.datagram.length := by
    rw [Ipv4Packet.length_onward total, Ipv4Packet.length_datagram total]
  simp only [checkedAgeWithin, EthernetFrame.checkedPayload_assemble, ok_bind,
    Ipv4Packet.checkedOfOctets_eq, Ipv4Packet.ofOctets_datagram read,
    Ipv4Packet.checkedAge_datagram read alive,
    EthernetFrame.checkedSetPayload_assemble sameLength, pure_eq_ok]

theorem checkedForward_eq {frame : EthernetFrame} {packet : Ipv4Packet}
    (readable : Ipv4Packet.ofFrame frame.octets = .ok packet)
    (alive : 1 ≤ packet.timeToLive.toNat) (destination source : MacAddress) :
    checkedForward frame destination source =
      .ok (.ok (EthernetFrame.assemble destination source frame.payloadType
        packet.onward.octets)) := by
  obtain ⟨frameLong, -, read⟩ := Ipv4Packet.ofFrame_eq_ok_iff.mp readable
  have payload : frame.payload = packet.octets := by
    obtain ⟨-, -, -, -, -, same⟩ := Ipv4Packet.ofOctets_eq_ok_iff.mp read
    rw [same]
    rfl
  obtain ⟨read, -⟩ := Ipv4Packet.read_of_ofFrame readable
  have long := (Ipv4Packet.ofOctets_eq_ok_iff.mp read).1
  simp only [checkedForward, EthernetFrame.checkedPayload_eq frameLong, payload, ok_bind,
    Ipv4Packet.checkedTimeToLive_eq long, checkedCut_eq readable payload,
    EthernetFrame.checkedSetAddresses_assemble, checkedAgeWithin_eq read alive]

theorem checkedComplete_eq {outbound : Outbound} (completable : outbound.Completable)
    (mac : MacAddress) :
    outbound.checkedComplete mac = .ok (.ok (outbound.complete mac)) := by
  obtain ⟨packet, readable, alive⟩ := completable
  obtain ⟨long, short, read⟩ := Ipv4Packet.ofFrame_eq_ok_iff.mp readable
  unfold checkedComplete
  cases origin : outbound.frame.origin with
  | originated =>
      have accepted : EthernetFrame.ofOctets outbound.frame.octets =
          .ok ⟨outbound.frame.octets⟩ :=
        EthernetFrame.ofOctets_eq_ok_iff.mpr ⟨long, short, rfl⟩
      have addressed := EthernetFrame.checkedSetAddresses_eq mac outbound.egress.mac
        (EthernetFrame.long_of_ofOctets accepted)
      simp only [accepted, addressed, ok_bind, complete_of_originated mac origin long]
      rfl
  | forwarded name =>
      obtain ⟨-, -, -, -, -, rfl⟩ := Ipv4Packet.ofOctets_eq_ok_iff.mp read
      rw [complete_of_forwarded mac origin]
      exact checkedForward_eq readable (alive name origin) mac outbound.egress.mac

end Outbound

namespace Router

variable {router : Router} {identification : UInt16} {outbound : Outbound}

theorem Delivers.completable (delivers : router.Delivers outbound) : outbound.Completable := by
  obtain ⟨packet, route, admits, -, -⟩ := delivers
  refine ⟨packet, admits.readable, fun name forwarded => ?_⟩
  have lively := (admits.forwardable name forwarded).1
  omega

/-- Whatever is decided about a frame leaves a frame that can be completed. -/
theorem completable_of_dispatch {arrival : Interface} {octets : Octets}
    (decided : router.dispatch identification arrival octets = .ok outbound) :
    outbound.Completable := by
  unfold dispatch at decided
  split at decided
  · cases decided
  next packet readable =>
  split at decided
  · cases decided
  split at decided
  · exact (delivers_of_answer decided).completable
  split at decided
  · exact (delivers_of_reportError decided).completable
  next lively =>
  split at decided
  · exact (delivers_of_reportError decided).completable
  obtain ⟨egress, leaves, rfl⟩ := sendAlong_eq_ok_iff.mp decided
  refine ⟨packet, readable, fun _ _ => ?_⟩
  have notLess : ¬ packet.timeToLive.toNat ≤ 1 := by
    simpa [UInt8.le_iff_toNat_le] using lively
  omega

theorem completable_of_dispatchAgain {frame : DatagramFrame}
    (decided : router.dispatchAgain identification frame = .ok outbound) :
    outbound.Completable := by
  unfold dispatchAgain at decided
  split at decided
  · obtain ⟨packet, _, _, readable, -, -, rfl⟩ := originateFrame_eq_ok_iff.mp decided
    exact ⟨packet, readable, fun _ forwarded => by cases forwarded⟩
  split at decided
  · cases decided
  · exact completable_of_dispatch decided

end Router

end Ipv4Router
