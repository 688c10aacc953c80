import Ipv4Router.Proofs.DeliverableFrames
import Ipv4Router.Proofs.OctetRuns

/-!
# Completed frames

A completed frame goes from the egress of its datagram to the hardware address it
was completed with, and the datagram in it still has the destination by which it
was routed.  Forwarding changes the time to live and the checksum of a datagram,
both of which lie before the destination.

They also lie behind the version and the lengths of the packet, which make its
shape.  So a forwarded datagram is as readable as it was, it fills its frame
without padding, and its checksum, filled anew, matches.
-/

namespace Ipv4Router

namespace Ipv4Packet

theorem destination_congr {first second : Ipv4Packet}
    (octetsEq : ∀ offset, 16 ≤ offset → offset < 20 →
      first.octets.octetAt offset = second.octets.octetAt offset) :
    first.destination = second.destination := by
  apply Ipv4Address.readAt_congr
  intro step inside
  exact octetsEq (16 + step) (by omega) (by omega)

@[simp]
theorem destination_setTimeToLive (packet : Ipv4Packet) (value : UInt8) :
    (packet.setTimeToLive value).destination = packet.destination := by
  apply destination_congr
  intro offset behind _
  exact Octets.octetAt_overwrite_of_le (by simp only [List.length_singleton]; omega)

@[simp]
theorem destination_setHeaderChecksum (packet : Ipv4Packet) (value : UInt16) :
    (packet.setHeaderChecksum value).destination = packet.destination := by
  apply destination_congr
  intro offset behind _
  exact Octets.octetAt_overwrite_of_le (by rw [Octets.length_ofWord]; omega)

@[simp]
theorem destination_fillChecksum (packet : Ipv4Packet) :
    packet.fillChecksum.destination = packet.destination := by
  simp only [fillChecksum, destination_setHeaderChecksum]

theorem destination_datagram {packet : Ipv4Packet}
    (long : minimumHeaderLength ≤ packet.totalLength) :
    (Ipv4Packet.mk packet.datagram).destination = packet.destination := by
  apply destination_congr
  intro offset _ before
  simp only [minimumHeaderLength] at long
  exact Octets.octetAt_take (by omega)

theorem timeToLive_datagram {packet : Ipv4Packet}
    (long : minimumHeaderLength ≤ packet.totalLength) :
    (Ipv4Packet.mk packet.datagram).timeToLive = packet.timeToLive :=
  Octets.octetAt_take (Nat.lt_of_lt_of_le (by decide) long)

theorem length_datagram {packet : Ipv4Packet}
    (whole : packet.totalLength ≤ packet.octets.length) :
    packet.datagram.length = packet.totalLength := by
  rw [datagram, List.length_take, Nat.min_eq_left whole]

/-- Packets that agree in the octets that hold the version and the lengths. -/
def SameShape (first second : Ipv4Packet) : Prop :=
  ∀ offset < 4, first.octets.octetAt offset = second.octets.octetAt offset

section SameShape

variable {first second third : Ipv4Packet}

theorem SameShape.trans (left : first.SameShape second) (right : second.SameShape third) :
    first.SameShape third :=
  fun offset inside => (left offset inside).trans (right offset inside)

theorem SameShape.headerLength_eq (shape : first.SameShape second) :
    first.headerLength = second.headerLength := by
  simp only [headerLength, shape 0 (by decide)]

theorem SameShape.totalLength_eq (shape : first.SameShape second) :
    first.totalLength = second.totalLength := by
  simp only [totalLength, Octets.wordAt, shape 2 (by decide), shape 3 (by decide)]

/-- A packet is readable if one of its shape is and the octets suffice. -/
theorem SameShape.ofOctets_eq (shape : first.SameShape second)
    (read : ofOctets second.octets = .ok second)
    (fits : second.totalLength ≤ first.octets.length) :
    ofOctets first.octets = .ok first := by
  obtain ⟨-, version, minimum, ordered, -, -⟩ := ofOctets_eq_ok_iff.mp read
  have sameVersion : first.version = second.version := by
    simp only [Ipv4Packet.version, shape 0 (by decide)]
  rw [ofOctets_eq_ok_iff, sameVersion, shape.headerLength_eq, shape.totalLength_eq]
  exact ⟨by omega, version, minimum, ordered, fits, rfl⟩

theorem sameShape_setTimeToLive (packet : Ipv4Packet) (value : UInt8) :
    (packet.setTimeToLive value).SameShape packet :=
  fun _ _ => Octets.octetAt_overwrite_of_lt (by omega)

theorem sameShape_setHeaderChecksum (packet : Ipv4Packet) (value : UInt16) :
    (packet.setHeaderChecksum value).SameShape packet :=
  fun _ _ => Octets.octetAt_overwrite_of_lt (by omega)

theorem sameShape_fillChecksum (packet : Ipv4Packet) :
    packet.fillChecksum.SameShape packet :=
  (sameShape_setHeaderChecksum _ _).trans (sameShape_setHeaderChecksum _ _)

theorem sameShape_datagram {packet : Ipv4Packet}
    (long : minimumHeaderLength ≤ packet.totalLength) :
    (Ipv4Packet.mk packet.datagram).SameShape packet := by
  intro offset inside
  simp only [minimumHeaderLength] at long
  exact Octets.octetAt_take (by omega)

/-- Without its padding a readable packet is readable by itself. -/
theorem ofOctets_datagram {packet : Ipv4Packet} (read : ofOctets packet.octets = .ok packet) :
    ofOctets packet.datagram = .ok ⟨packet.datagram⟩ := by
  obtain ⟨-, -, minimum, ordered, total, -⟩ := ofOctets_eq_ok_iff.mp read
  exact (sameShape_datagram (Nat.le_trans minimum ordered)).ofOctets_eq read
    (Nat.le_of_eq (length_datagram total).symm)

end SameShape

/-- A packet as it is forwarded: without its padding, with one unit less to live and
with a checksum to match. -/
def onward (packet : Ipv4Packet) : Ipv4Packet :=
  ((Ipv4Packet.mk packet.datagram).setTimeToLive
    ((Ipv4Packet.mk packet.datagram).timeToLive - 1)).fillChecksum

@[simp]
theorem length_fillChecksum (packet : Ipv4Packet) :
    packet.fillChecksum.octets.length = packet.octets.length := by
  simp only [fillChecksum, setHeaderChecksum, Octets.length_setWord]

section Onward

variable {packet : Ipv4Packet}

theorem length_onward (whole : packet.totalLength ≤ packet.octets.length) :
    packet.onward.octets.length = packet.totalLength := by
  simp only [onward, length_fillChecksum, setTimeToLive, Octets.length_setOctet,
    length_datagram whole]

theorem sameShape_onward (long : minimumHeaderLength ≤ packet.totalLength) :
    packet.onward.SameShape packet :=
  (sameShape_fillChecksum _).trans
    ((sameShape_setTimeToLive _ _).trans (sameShape_datagram long))

theorem destination_onward (long : minimumHeaderLength ≤ packet.totalLength) :
    packet.onward.destination = packet.destination := by
  simp only [onward, destination_fillChecksum, destination_setTimeToLive]
  exact destination_datagram long

theorem ofOctets_onward (read : ofOctets packet.octets = .ok packet) :
    ofOctets packet.onward.octets = .ok packet.onward := by
  obtain ⟨-, -, minimum, ordered, total, -⟩ := ofOctets_eq_ok_iff.mp read
  exact (sameShape_onward (Nat.le_trans minimum ordered)).ofOctets_eq read
    (Nat.le_of_eq (length_onward total).symm)

theorem verifyChecksum_onward (read : ofOctets packet.octets = .ok packet) :
    packet.onward.verifyChecksum = .ok () := by
  obtain ⟨-, -, minimum, ordered, total, -⟩ := ofOctets_eq_ok_iff.mp read
  have shape := (sameShape_setTimeToLive (Ipv4Packet.mk packet.datagram)
    ((Ipv4Packet.mk packet.datagram).timeToLive - 1)).trans
      (sameShape_datagram (Nat.le_trans minimum ordered))
  apply verifyChecksum_fillChecksum
  · rw [shape.headerLength_eq]
    exact minimum
  · rw [shape.headerLength_eq]
    simp only [setTimeToLive, Octets.length_setOctet, length_datagram total]
    exact ordered

theorem timeToLive_onward (read : ofOctets packet.octets = .ok packet) :
    packet.onward.timeToLive = packet.timeToLive - 1 := by
  obtain ⟨-, -, minimum, ordered, total, -⟩ := ofOctets_eq_ok_iff.mp read
  have long := Nat.le_trans minimum ordered
  have fits : 8 < packet.datagram.length := by
    rw [length_datagram total]
    exact Nat.lt_of_lt_of_le (by decide) long
  calc
    packet.onward.timeToLive =
        ((Ipv4Packet.mk packet.datagram).setTimeToLive
          ((Ipv4Packet.mk packet.datagram).timeToLive - 1)).timeToLive := by
      simp only [onward, fillChecksum, setHeaderChecksum, timeToLive, Octets.setWord]
      rw [Octets.octetAt_overwrite_of_lt (by decide), Octets.octetAt_overwrite_of_lt (by decide)]
    _ = (Ipv4Packet.mk packet.datagram).timeToLive - 1 :=
      Octets.octetAt_setOctet _ fits
    _ = packet.timeToLive - 1 := by rw [timeToLive_datagram long]

theorem toNat_timeToLive_onward (read : ofOctets packet.octets = .ok packet)
    (alive : 1 ≤ packet.timeToLive.toNat) :
    packet.onward.timeToLive.toNat + 1 = packet.timeToLive.toNat := by
  have notSmaller : (1 : UInt8) ≤ packet.timeToLive := UInt8.le_iff_toNat_le.mpr alive
  rw [timeToLive_onward read, UInt8.toNat_sub_of_le _ _ notSmaller, UInt8.toNat_one]
  omega

end Onward

end Ipv4Packet

namespace Outbound

variable {outbound : Outbound} (mac : MacAddress)

theorem complete_of_originated (own : outbound.frame.origin = .originated)
    (long : EthernetFrame.headerLength ≤ outbound.frame.octets.length) :
    outbound.complete mac = EthernetFrame.assemble mac outbound.egress.mac
      (EthernetFrame.mk outbound.frame.octets).payloadType
      (EthernetFrame.mk outbound.frame.octets).payload := by
  have ethernetLong : EthernetFrame.headerLength ≤
      (EthernetFrame.mk outbound.frame.octets).octets.length := long
  simp only [complete, own, EthernetFrame.setDestination_setSource ethernetLong]

theorem complete_of_forwarded {name : String}
    (foreign : outbound.frame.origin = .forwarded name) :
    outbound.complete mac = EthernetFrame.assemble mac outbound.egress.mac
      (EthernetFrame.mk outbound.frame.octets).payloadType
      (Ipv4Packet.mk (EthernetFrame.mk outbound.frame.octets).payload).onward.octets := by
  simp only [complete, foreign, Ipv4Packet.onward]

section Header

variable (long : EthernetFrame.headerLength ≤ outbound.frame.octets.length)
include long

/-- The header of a completed frame does not depend on where its datagram comes from. -/
theorem exists_complete_eq :
    ∃ payload, outbound.complete mac = EthernetFrame.assemble mac outbound.egress.mac
      (EthernetFrame.mk outbound.frame.octets).payloadType payload := by
  cases origin : outbound.frame.origin with
  | originated => exact ⟨_, complete_of_originated mac origin long⟩
  | forwarded name => exact ⟨_, complete_of_forwarded mac origin⟩

theorem destination_complete :
    (EthernetFrame.mk (outbound.complete mac)).destination = mac := by
  obtain ⟨payload, completed⟩ := exists_complete_eq mac long
  rw [completed, EthernetFrame.destination_assemble]

theorem source_complete :
    (EthernetFrame.mk (outbound.complete mac)).source = outbound.egress.mac := by
  obtain ⟨payload, completed⟩ := exists_complete_eq mac long
  rw [completed, EthernetFrame.source_assemble]

theorem payloadType_complete :
    (EthernetFrame.mk (outbound.complete mac)).payloadType =
      (EthernetFrame.mk outbound.frame.octets).payloadType := by
  obtain ⟨payload, completed⟩ := exists_complete_eq mac long
  rw [completed, EthernetFrame.payloadType_assemble]

end Header

theorem payload_complete_of_originated (own : outbound.frame.origin = .originated)
    (long : EthernetFrame.headerLength ≤ outbound.frame.octets.length) :
    (EthernetFrame.mk (outbound.complete mac)).payload =
      (EthernetFrame.mk outbound.frame.octets).payload := by
  rw [complete_of_originated mac own long, EthernetFrame.payload_assemble]

theorem payload_complete_of_forwarded {name : String}
    (foreign : outbound.frame.origin = .forwarded name) :
    (EthernetFrame.mk (outbound.complete mac)).payload =
      (Ipv4Packet.mk (EthernetFrame.mk outbound.frame.octets).payload).onward.octets := by
  rw [complete_of_forwarded mac foreign, EthernetFrame.payload_assemble]

/-- A completed frame is not longer than the frame it was made from. -/
theorem length_complete {packet : Ipv4Packet}
    (readable : Ipv4Packet.ofFrame outbound.frame.octets = .ok packet) :
    EthernetFrame.headerLength ≤ (outbound.complete mac).length ∧
      (outbound.complete mac).length ≤ outbound.frame.octets.length := by
  obtain ⟨long, -, read⟩ := Ipv4Packet.ofFrame_eq_ok_iff.mp readable
  obtain ⟨-, -, -, -, total, rfl⟩ := Ipv4Packet.ofOctets_eq_ok_iff.mp read
  cases origin : outbound.frame.origin with
  | originated =>
      rw [complete_of_originated mac origin long, EthernetFrame.length_assemble]
      simp only [EthernetFrame.payload, List.length_drop]
      omega
  | forwarded name =>
      rw [complete_of_forwarded mac origin, EthernetFrame.length_assemble]
      simp only [EthernetFrame.payload, Ipv4Packet.length_onward total]
      rw [List.length_drop] at total
      exact ⟨Nat.le_add_right _ _, by omega⟩

/-- The datagram in a completed frame has the destination by which it was routed. -/
theorem packetDestination_complete {packet : Ipv4Packet}
    (readable : Ipv4Packet.ofFrame outbound.frame.octets = .ok packet) :
    (Ipv4Packet.mk (EthernetFrame.mk (outbound.complete mac)).payload).destination =
      packet.destination := by
  obtain ⟨long, -, read⟩ := Ipv4Packet.ofFrame_eq_ok_iff.mp readable
  obtain ⟨-, -, minimum, ordered, -, rfl⟩ := Ipv4Packet.ofOctets_eq_ok_iff.mp read
  cases origin : outbound.frame.origin with
  | originated => rw [payload_complete_of_originated mac origin long, EthernetFrame.payload]
  | forwarded name =>
      rw [payload_complete_of_forwarded mac origin]
      exact Ipv4Packet.destination_onward (Nat.le_trans minimum ordered)

theorem ofFrame_complete_of_originated {packet : Ipv4Packet}
    (own : outbound.frame.origin = .originated)
    (readable : Ipv4Packet.ofFrame outbound.frame.octets = .ok packet) :
    Ipv4Packet.ofFrame (outbound.complete mac) = .ok packet := by
  obtain ⟨long, short, read⟩ := Ipv4Packet.ofFrame_eq_ok_iff.mp readable
  obtain ⟨longEnough, notLonger⟩ := length_complete mac readable
  have payload := payload_complete_of_originated mac own long
  rw [EthernetFrame.payload, EthernetFrame.payload] at payload
  rw [Ipv4Packet.ofFrame_eq_ok_iff, payload]
  exact ⟨longEnough, Nat.le_trans notLonger short, read⟩

end Outbound

end Ipv4Router
