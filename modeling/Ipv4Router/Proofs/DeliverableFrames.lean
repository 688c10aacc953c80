import Ipv4Router.Outbound
import Ipv4Router.Proofs.ChecksumResidue

/-!
# Deliverable frames

Whatever the router decides to output is a readable datagram whose checksum
matches, on its way along the route of its destination.  A forwarded datagram
moreover has a unit of its time to live to spare, is not addressed to the router
and arrived on one of its interfaces.

These facts are all that the decision depends on.  A frame of which they hold is
therefore decided about in the same way whenever it comes round again, whichever
identification is drawn for it.
-/

namespace Ipv4Router

namespace Ipv4Packet

theorem ofOctets_eq_ok_iff {octets : Octets} {packet : Ipv4Packet} :
    ofOctets octets = .ok packet ↔
      minimumHeaderLength ≤ octets.length ∧ packet.version = 4 ∧
        minimumHeaderLength ≤ packet.headerLength ∧
        packet.headerLength ≤ packet.totalLength ∧ packet.totalLength ≤ octets.length ∧
        packet = ⟨octets⟩ := by
  unfold ofOctets
  simp only
  split
  · simp; omega
  · split
    · next long fields =>
      simp only [Except.ok.injEq]
      constructor
      · intro equal
        subst equal
        exact ⟨by omega, fields.1, fields.2.1, fields.2.2.1, fields.2.2.2, rfl⟩
      · intro accepted
        exact accepted.2.2.2.2.2.symm
    · next long faulty =>
      constructor
      · intro impossible
        cases impossible
      · rintro ⟨-, version, minimum, ordered, total, rfl⟩
        exact absurd ⟨version, minimum, ordered, total⟩ faulty

theorem ofFrame_eq_ok_iff {octets : Octets} {packet : Ipv4Packet} :
    ofFrame octets = .ok packet ↔
      EthernetFrame.headerLength ≤ octets.length ∧
        octets.length ≤ EthernetFrame.maximumLength ∧
        ofOctets (octets.drop EthernetFrame.headerLength) = .ok packet := by
  unfold ofFrame
  split
  · next fault refused =>
    constructor
    · intro impossible
      cases impossible
    · rintro ⟨long, short, -⟩
      have accepted := EthernetFrame.ofOctets_eq_ok_iff.mpr
        ⟨long, short, (rfl : EthernetFrame.mk octets = ⟨octets⟩)⟩
      rw [refused] at accepted
      cases accepted
  · next frame accepted =>
    obtain ⟨long, short, rfl⟩ := EthernetFrame.ofOctets_eq_ok_iff.mp accepted
    exact ⟨fun read => ⟨long, short, read⟩, fun read => read.2.2⟩

/-- A packet in a frame is read back from its own octets, which are all that follows the
header of the frame. -/
theorem read_of_ofFrame {octets : Octets} {packet : Ipv4Packet}
    (readable : ofFrame octets = .ok packet) :
    ofOctets packet.octets = .ok packet ∧
      octets.length = EthernetFrame.headerLength + packet.octets.length := by
  obtain ⟨long, -, read⟩ := ofFrame_eq_ok_iff.mp readable
  obtain ⟨-, -, -, -, -, rfl⟩ := ofOctets_eq_ok_iff.mp read
  refine ⟨read, ?_⟩
  rw [List.length_drop]
  omega

theorem verifyChecksum_eq_ok_iff {packet : Ipv4Packet} :
    packet.verifyChecksum = .ok () ↔ packet.computedChecksum = 0 := by
  unfold verifyChecksum
  split <;> simp_all

@[simp]
theorem headerLength_setHeaderChecksum (packet : Ipv4Packet) (value : UInt16) :
    (packet.setHeaderChecksum value).headerLength = packet.headerLength := by
  simp only [headerLength, setHeaderChecksum, Octets.setWord]
  rw [Octets.octetAt_overwrite_of_lt (by decide)]

theorem header_setHeaderChecksum (packet : Ipv4Packet) (value : UInt16) :
    (packet.setHeaderChecksum value).header = packet.header.setWord 10 value := by
  rw [header, headerLength_setHeaderChecksum]
  exact Octets.take_overwrite packet.octets 10 (Octets.ofWord value) packet.headerLength

theorem headerLength_le (packet : Ipv4Packet) : packet.headerLength ≤ 60 := by
  have units : (packet.octets.octetAt 0 % 16).toNat < 16 := by
    rw [UInt8.toNat_mod]
    exact Nat.mod_lt _ (by decide)
  simp only [headerLength]
  omega

theorem verifyChecksum_fillChecksum {packet : Ipv4Packet}
    (minimum : minimumHeaderLength ≤ packet.headerLength)
    (whole : packet.headerLength ≤ packet.octets.length) :
    packet.fillChecksum.verifyChecksum = .ok () := by
  have headerBound := packet.headerLength_le
  have longHeader : packet.header.length = packet.headerLength := by
    rw [header, List.length_take]
    omega
  simp only [minimumHeaderLength] at minimum
  rw [verifyChecksum_eq_ok_iff]
  simp only [fillChecksum, computedChecksum, header_setHeaderChecksum]
  exact internetChecksum_setWord_self packet.header 10 (by decide) (by omega) (by omega)

end Ipv4Packet

theorem Ipv4Header.headerLength_toOctets_append (header : Ipv4Header) (payload : Octets) :
    (Ipv4Packet.mk (header.toOctets ++ payload)).headerLength =
      Ipv4Packet.minimumHeaderLength := by
  have firstOctet : Octets.octetAt (header.toOctets ++ payload) 0 = 0x45 := rfl
  rw [Ipv4Packet.headerLength, firstOctet]
  decide

theorem Ipv4Header.verifyChecksum_attach (header : Ipv4Header) (payload : Octets) :
    (Ipv4Packet.mk (header.attach payload)).verifyChecksum = .ok () := by
  have headerLength := header.headerLength_toOctets_append payload
  apply Ipv4Packet.verifyChecksum_fillChecksum
  · exact Nat.le_of_eq headerLength.symm
  · rw [headerLength, List.length_append, Ipv4Header.length_toOctets]
    exact Nat.le_add_right _ _

theorem Interfaces.name_of_byName? {interfaces : Interfaces} {name : String}
    {interface : Interface} (found : interfaces.byName? name = some interface) :
    interface.name = name := by
  simpa using List.find?_some found

namespace Router

theorem owns_eq_false_iff {router : Router} {address : Ipv4Address} :
    router.owns address = false ↔
      ∀ interface ∈ router.interfaces.all, interface.address ≠ address := by
  simp [owns, Interfaces.byAddress?, List.find?_eq_none]

/-- The frame holds an ICMP message that the router wrote itself. -/
def Composes (router : Router) (octets : Octets) : Prop :=
  ∃ (header : Ipv4Header) (message : IcmpMessage) (data : Octets),
    octets = EthernetFrame.assemble MacAddress.unspecified MacAddress.unspecified
      EthernetFrame.ipv4Type (header.attach (IcmpPacket.ofMessage message data).octets) ∧
    header.protocol = Ipv4Header.icmpProtocol ∧
    header.timeToLive = router.settings.icmpTimeToLive ∧
    header.payloadLength = IcmpPacket.headerLength + data.length ∧
    header.packetLength ≤ 65535

/-- What the router knows of a frame that it outputs: the datagram in it, which
it can read and which is intact, and the route of this datagram.  Of a forwarded
frame it also knows that it may be forwarded, and of any other that it wrote the
datagram itself. -/
structure Admits (router : Router) (frame : DatagramFrame) (packet : Ipv4Packet)
    (route : Route) : Prop where
  readable : Ipv4Packet.ofFrame frame.octets = .ok packet
  intact : packet.verifyChecksum = .ok ()
  routed : router.routes.lookup packet.destination = some route
  forwardable : ∀ name, frame.origin = .forwarded name →
    2 ≤ packet.timeToLive.toNat ∧ router.owns packet.destination = false ∧
      ∃ arrival, router.interfaces.byName? name = some arrival
  labelled : (EthernetFrame.mk frame.octets).payloadType = EthernetFrame.ipv4Type
  composed : frame.origin = .originated → router.Composes frame.octets

/-- An outbound datagram is on its way along the route of its destination. -/
def Delivers (router : Router) (outbound : Outbound) : Prop :=
  ∃ packet route, router.Admits outbound.frame packet route ∧
    router.interfaces.byName? route.interface = some outbound.egress ∧
    outbound.nextHop = route.nextHop packet.destination

/-- Every route leads through an interface of the router. -/
def Connected (router : Router) : Prop :=
  ∀ route ∈ router.routes.routes, ∃ egress,
    router.interfaces.byName? route.interface = some egress

variable {router : Router} {identification : UInt16} {outbound : Outbound}

/-- The interface a datagram leaves through is found by its own name. -/
theorem Delivers.byName?_egress (delivers : router.Delivers outbound) :
    router.interfaces.byName? outbound.egress.name = some outbound.egress := by
  obtain ⟨packet, route, -, leaves, -⟩ := delivers
  rw [Interfaces.name_of_byName? leaves]
  exact leaves

theorem sendAlong_eq_ok_iff {route : Route} {destination : Ipv4Address}
    {frame : DatagramFrame} :
    router.sendAlong route destination frame = .ok outbound ↔
      ∃ egress, router.interfaces.byName? route.interface = some egress ∧
        outbound = ⟨egress, route.nextHop destination, frame⟩ := by
  unfold sendAlong
  split
  · next unknown => simp [unknown]
  · next egress found =>
    rw [found]
    simp [eq_comm]

/-- The decision about a frame of the router's own follows the route of its
destination. -/
theorem originateFrame_eq_ok_iff {octets : Octets} :
    router.originateFrame octets = .ok outbound ↔
      ∃ packet route egress, Ipv4Packet.ofFrame octets = .ok packet ∧
        router.routes.lookup packet.destination = some route ∧
        router.interfaces.byName? route.interface = some egress ∧
        outbound = ⟨egress, route.nextHop packet.destination, ⟨octets, .originated⟩⟩ := by
  unfold originateFrame
  split
  · next unreadable => simp [unreadable]
  · next packet readable =>
    rw [readable]
    split
    · next noRoute => simp [noRoute]
    · next route routed => simp [sendAlong_eq_ok_iff, routed]

/-- Messages that the router writes are deliverable. -/
theorem delivers_of_originateMessage {source destination : Ipv4Address}
    {message : IcmpMessage} {data : Octets}
    (decided : router.originateMessage identification source destination message data =
      .ok outbound) :
    router.Delivers outbound := by
  unfold originateMessage at decided
  simp only at decided
  split at decided
  · cases decided
  next notTooLong =>
  split at decided
  · cases decided
  next longEnough =>
  rw [originateDatagram, originateFrame_eq_ok_iff] at decided
  obtain ⟨packet, route, egress, readable, routed, leaves, rfl⟩ := decided
  refine ⟨packet, route, ⟨readable, ?_, routed, ?_, ?_, ?_⟩, leaves, rfl⟩
  · obtain ⟨-, -, read⟩ := Ipv4Packet.ofFrame_eq_ok_iff.mp readable
    obtain ⟨-, -, -, -, -, rfl⟩ := Ipv4Packet.ofOctets_eq_ok_iff.mp read
    exact Ipv4Header.verifyChecksum_attach _ _
  · intro name forwarded
    cases forwarded
  · exact EthernetFrame.payloadType_assemble _ _ _ _
  · intro _
    refine ⟨_, _, _, rfl, rfl, rfl, ?_, Nat.le_of_not_lt notTooLong⟩
    simp only [List.length_take]
    omega

theorem delivers_of_reportError {arrival : Interface} {packet : Ipv4Packet}
    {message : IcmpMessage}
    (decided : router.reportError identification arrival packet message = .ok outbound) :
    router.Delivers outbound :=
  delivers_of_originateMessage decided

theorem delivers_of_answer {arrival : Interface} {packet : Ipv4Packet}
    (decided : router.answer identification arrival packet = .ok outbound) :
    router.Delivers outbound := by
  unfold answer at decided
  split at decided
  · exact delivers_of_reportError decided
  split at decided
  · cases decided
  split at decided
  · cases decided
  split at decided
  · exact delivers_of_reportError decided
  · exact delivers_of_originateMessage decided

/-- Whatever becomes of a datagram that arrived is deliverable. -/
theorem delivers_of_dispatch {arrival : Interface} {octets : Octets}
    (known : router.interfaces.byName? arrival.name = some arrival)
    (ipv4 : (EthernetFrame.mk octets).payloadType = EthernetFrame.ipv4Type)
    (decided : router.dispatch identification arrival octets = .ok outbound) :
    router.Delivers outbound := by
  unfold dispatch at decided
  split at decided
  · cases decided
  next packet readable =>
  split at decided
  · cases decided
  next intact =>
  split at decided
  · exact delivers_of_answer decided
  next notOwned =>
  split at decided
  · exact delivers_of_reportError decided
  next lively =>
  split at decided
  · exact delivers_of_reportError decided
  next route routed =>
  obtain ⟨egress, leaves, rfl⟩ := sendAlong_eq_ok_iff.mp decided
  refine ⟨packet, route, ⟨readable, intact, routed, ?_, ipv4, by simp⟩, leaves, rfl⟩
  intro name forwarded
  cases forwarded
  refine ⟨?_, by simpa using notOwned, arrival, known⟩
  have notLess : ¬ packet.timeToLive.toNat ≤ 1 := by
    simpa [UInt8.le_iff_toNat_le] using lively
  omega

theorem delivers_of_reportAbandoned {frame : DatagramFrame}
    (decided : router.reportAbandoned identification frame = .ok outbound) :
    router.Delivers outbound := by
  unfold reportAbandoned at decided
  split at decided
  · cases decided
  split at decided
  · cases decided
  split at decided
  · cases decided
  exact delivers_of_reportError decided

/-- The frame of a deliverable datagram leads to the same datagram again. -/
theorem Delivers.dispatchAgain_eq (delivers : router.Delivers outbound)
    (identification : UInt16) :
    router.dispatchAgain identification outbound.frame = .ok outbound := by
  obtain ⟨egress, nextHop, octets, origin⟩ := outbound
  obtain ⟨packet, route, admits, leaves, rfl⟩ := delivers
  cases origin with
  | originated =>
      exact originateFrame_eq_ok_iff.mpr
        ⟨packet, route, egress, admits.readable, admits.routed, leaves, rfl⟩
  | forwarded name =>
      obtain ⟨lively, notOwned, arrival, known⟩ := admits.forwardable name rfl
      have notExpired : ¬ packet.timeToLive ≤ 1 := by
        rw [UInt8.le_iff_toNat_le]
        simp only [UInt8.toNat_one]
        omega
      have arrivalName := Interfaces.name_of_byName? known
      simp only [dispatchAgain, known, dispatch, admits.readable, admits.intact, notOwned,
        admits.routed, notExpired, arrivalName, if_false, Bool.false_eq_true]
      exact sendAlong_eq_ok_iff.mpr ⟨egress, leaves, rfl⟩

end Router

end Ipv4Router
