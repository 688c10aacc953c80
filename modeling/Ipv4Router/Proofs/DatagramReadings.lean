import Ipv4Router.Proofs.CompletedFrames

/-!
# What a datagram determines

What stands behind a packet in its frame does not belong to the datagram.  Whatever a
router reads from a packet it reads from the datagram alone: the fields of the header, the
header as a whole, the payload and the checksum.  So every decision that it makes about a
packet is made about the datagram.

A reading ignores padding if it is the same for a readable packet and for the packet that
has only the datagram left.  Readings of this kind agree on packets with one datagram.
-/

namespace Ipv4Router

namespace Ipv4Packet

/-- A reading of packets that does not depend on what stands behind the datagram. -/
def IgnoresPadding {Value : Type} (reading : Ipv4Packet → Value) : Prop :=
  ∀ packet, ofOctets packet.octets = .ok packet → reading ⟨packet.datagram⟩ = reading packet

theorem IgnoresPadding.eq {Value : Type} {reading : Ipv4Packet → Value}
    (ignores : IgnoresPadding reading) {first second : Ipv4Packet}
    (firstRead : ofOctets first.octets = .ok first)
    (secondRead : ofOctets second.octets = .ok second)
    (sameDatagram : first.datagram = second.datagram) : reading first = reading second := by
  rw [← ignores first firstRead, sameDatagram, ignores second secondRead]

/-- The header of a readable packet lies within its datagram. -/
theorem minimumHeaderLength_le_totalLength {packet : Ipv4Packet}
    (read : ofOctets packet.octets = .ok packet) :
    minimumHeaderLength ≤ packet.totalLength := by
  obtain ⟨-, -, minimum, ordered, -, -⟩ := ofOctets_eq_ok_iff.mp read
  exact Nat.le_trans minimum ordered

theorem octetAt_datagram {packet : Ipv4Packet} (read : ofOctets packet.octets = .ok packet)
    {offset : Nat} (inHeader : offset < minimumHeaderLength) :
    Octets.octetAt packet.datagram offset = packet.octets.octetAt offset :=
  Octets.octetAt_take (Nat.lt_of_lt_of_le inHeader (minimumHeaderLength_le_totalLength read))

theorem ignoresPadding_timeToLive : IgnoresPadding timeToLive :=
  fun _ read => octetAt_datagram read (by decide)

theorem ignoresPadding_protocol : IgnoresPadding protocol :=
  fun _ read => octetAt_datagram read (by decide)

theorem ignoresPadding_source : IgnoresPadding source := by
  intro packet read
  apply Ipv4Address.readAt_congr
  intro step inside
  exact octetAt_datagram read (by simp only [minimumHeaderLength]; omega)

theorem ignoresPadding_destination : IgnoresPadding destination :=
  fun _ read => destination_datagram (minimumHeaderLength_le_totalLength read)

theorem ignoresPadding_header : IgnoresPadding header := by
  intro packet read
  have shape := sameShape_datagram (minimumHeaderLength_le_totalLength read)
  obtain ⟨-, -, -, ordered, -, -⟩ := ofOctets_eq_ok_iff.mp read
  rw [header, shape.headerLength_eq]
  simp only [datagram, header, List.take_take, Nat.min_eq_left ordered]

theorem ignoresPadding_payload : IgnoresPadding payload := by
  intro packet read
  have shape := sameShape_datagram (minimumHeaderLength_le_totalLength read)
  rw [payload, shape.headerLength_eq, shape.totalLength_eq]
  simp only [datagram, payload, List.drop_take, List.take_take, Nat.min_self]

theorem ignoresPadding_verifyChecksum : IgnoresPadding verifyChecksum := by
  intro packet read
  have sameChecksum : (Ipv4Packet.mk packet.datagram).computedChecksum =
      packet.computedChecksum := by
    rw [computedChecksum, ignoresPadding_header packet read, computedChecksum]
  rw [verifyChecksum, sameChecksum, verifyChecksum]

end Ipv4Packet

namespace Router

open Ipv4Packet

variable (router : Router) (identification : UInt16) (arrival : Interface)

theorem ignoresPadding_reportError (message : IcmpMessage) :
    IgnoresPadding (fun packet => router.reportError identification arrival packet message) := by
  intro packet read
  simp only [reportError, ignoresPadding_source packet read, ignoresPadding_header packet read,
    ignoresPadding_payload packet read]

theorem ignoresPadding_answer : IgnoresPadding (router.answer identification arrival) := by
  intro packet read
  have reports : ∀ message,
      router.reportError identification arrival ⟨packet.datagram⟩ message =
        router.reportError identification arrival packet message :=
    fun message => ignoresPadding_reportError router identification arrival message packet read
  simp only [answer, reports, ignoresPadding_protocol packet read,
    ignoresPadding_payload packet read, ignoresPadding_destination packet read,
    ignoresPadding_source packet read]

end Router

end Ipv4Router
