import Ipv4Router.Proofs.AbandonedSenders
import Ipv4Router.Proofs.ForwardedFrames
import Ipv4Router.Proofs.OwnDatagrams

/-!
# Responses to datagrams

The sender of an intact datagram is told why it goes no further.  Whether it is for the router
itself is asked first, so a datagram for one of the router's addresses may have no time left to
live, and last of all whether there is a route, so a datagram without time left needs none.
The checks exclude each other: a datagram provokes one error at most.

An echo request for one of the router's addresses is answered from that address, which need not
be the one on which it has arrived.  The reply takes the header without options where the request
may have had some, so what has arrived in one frame fits another.

What is sent back does not depend on what the router remembers.  That only decides when it is
handed to the link.
-/

namespace Ipv4Router

theorem Ipv4Packet.length_quotation {packet : Ipv4Packet}
    (read : Ipv4Packet.ofOctets packet.octets = .ok packet) :
    packet.quotation.length = packet.headerLength + min 8 packet.payload.length := by
  rw [quotation, List.length_append, Ipv4Packet.length_header read, List.length_take]

namespace Router

/-- A packet takes an intact ICMP message to one of the addresses of the router. -/
structure Brings (router : Router) (packet : Ipv4Packet) : Prop where
  owned : router.owns packet.destination
  protocol : packet.protocol = Ipv4Header.icmpProtocol
  long : IcmpPacket.headerLength ≤ packet.payload.length
  intact : (IcmpPacket.mk packet.payload).verifyChecksum = .ok ()

/-- Why the sender of an intact packet is told that it goes no further. -/
inductive Provokes (router : Router) (packet : Ipv4Packet) : IcmpMessage → Prop
  /-- The router itself speaks ICMP only. -/
  | foreignProtocol (owned : router.owns packet.destination)
      (other : packet.protocol ≠ Ipv4Header.icmpProtocol) :
      Provokes router packet .portUnreachable
  /-- Of the ICMP messages only echo requests are answered. -/
  | unanswered (brings : router.Brings packet)
      (other : (IcmpPacket.mk packet.payload).typeCode ≠ IcmpMessage.echoRequestType) :
      Provokes router packet .hostUnreachable
  | expired (notOwned : router.owns packet.destination = false)
      (spent : packet.timeToLive.toNat ≤ 1) :
      Provokes router packet .timeExceeded
  | unrouted (notOwned : router.owns packet.destination = false)
      (lively : 2 ≤ packet.timeToLive.toNat)
      (noRoute : router.routes.lookup packet.destination = none) :
      Provokes router packet .netUnreachable

variable {router : Router} {name : String} {octets : Octets} {arrival : Interface}
  {packet : Ipv4Packet} {message : IcmpMessage}

/-- A packet provokes one error at most. -/
theorem Provokes.unique {other : IcmpMessage} (provokes : router.Provokes packet message)
    (otherProvokes : router.Provokes packet other) : message = other := by
  cases provokes with
  | foreignProtocol owned foreign => cases otherProvokes <;> grind [Brings]
  | unanswered brings => cases otherProvokes <;> grind [Brings]
  | expired notOwned spent => cases otherProvokes <;> grind [Brings]
  | unrouted notOwned lively => cases otherProvokes <;> grind [Brings]

theorem Brings.read (brings : router.Brings packet) :
    IcmpPacket.ofOctets packet.payload = .ok ⟨packet.payload⟩ := by
  have fits : packet.payload.length ≤ packet.totalLength := by
    rw [Ipv4Packet.payload, List.length_take]
    exact Nat.le_trans (Nat.min_le_left _ _) (Nat.sub_le _ _)
  have notLonger : packet.totalLength ≤ IcmpPacket.maximumLength :=
    Nat.le_of_lt_succ (packet.octets.wordAt 2).toNat_lt
  exact IcmpPacket.ofOctets_eq_ok_iff.mpr ⟨brings.long, Nat.le_trans fits notLonger, rfl⟩

theorem Brings.answer_eq (brings : router.Brings packet) (identification : UInt16)
    (arrival : Interface) :
    router.answer identification arrival packet =
      let icmp := IcmpPacket.mk packet.payload
      if icmp.typeCode ≠ IcmpMessage.echoRequestType then
        router.reportError identification arrival packet .hostUnreachable
      else
        router.originateMessage identification packet.destination packet.source
          (.echoReply icmp.identifier icmp.sequenceNumber) icmp.data := by
  simp only [answer, brings.protocol, ne_eq, not_true_eq_false, if_false, brings.read,
    brings.intact]

theorem Presents.dispatch_of_provokes (presents : router.Presents name octets arrival packet)
    (provokes : router.Provokes packet message) (identification : UInt16) :
    router.dispatch identification arrival octets =
      router.originateMessage identification arrival.address packet.source message
        packet.quotation := by
  change _ = router.reportError identification arrival packet message
  cases provokes with
  | foreignProtocol owned other =>
      rw [presents.dispatch_of_owned owned, answer, if_pos other]
  | unanswered brings other =>
      rw [presents.dispatch_of_owned brings.owned, brings.answer_eq]
      exact if_pos other
  | expired notOwned spent =>
      have noTime : packet.timeToLive ≤ 1 := UInt8.le_iff_toNat_le.mpr spent
      simp only [dispatch, presents.readable, presents.intact, notOwned, Bool.false_eq_true,
        if_false, if_pos noTime]
  | unrouted notOwned lively noRoute =>
      have time : ¬ packet.timeToLive ≤ 1 := by
        rw [UInt8.le_iff_toNat_le, UInt8.toNat_one]
        omega
      simp only [dispatch, presents.readable, presents.intact, notOwned, Bool.false_eq_true,
        if_false, if_neg time, noRoute]

/-- An intact datagram that goes no further provokes one error.  Unless there is no route to its
source, the router outputs one datagram and does nothing else.  This datagram comes from the
address of the interface on which the other has arrived, without options.  It quotes the header
of the other, options included, with the time to live that it had when it arrived, and up to
eight octets of the payload behind it. -/
theorem provoked_error_output {interfaces : List Interface} {routes : RoutingTable}
    {settings : Settings} (built : build interfaces routes settings = .ok router)
    (presents : router.Presents name octets arrival packet)
    (provokes : router.Provokes packet message) (environment : Environment)
    (state : RouterState) :
    let outcome := router.step environment state (.arrival name octets)
    (∀ other, router.Provokes packet other → other = message) ∧
    ((router.routes.lookup packet.source = none ∧
      outcome = (Turn.start state, .error (.noRoute packet.source))) ∨
    ∃ outbound error, router.Issues outbound error ∧
      error.Bears arrival.address packet.source router.settings.icmpTimeToLive message
        (packet.header ++ packet.payload.take 8) ∧
      error.totalLength = 28 + packet.headerLength + min 8 packet.payload.length ∧
      router.Outputs environment state outbound outcome) := by
  intro outcome
  refine ⟨fun other otherProvokes => otherProvokes.unique provokes, ?_⟩
  rcases presents.outputs_or_unrouted (connected_of_build built) packet.length_quotation_le
    (presents.dispatch_of_provokes provokes) environment state with
    unrouted | ⟨outbound, error, issues, bears, outputs⟩
  · exact Or.inl unrouted
  · refine Or.inr ⟨outbound, error, issues, bears, ?_, outputs⟩
    have read := (Ipv4Packet.read_of_ofFrame presents.readable).1
    have quoted := Ipv4Packet.length_quotation read
    rw [bears.total, quoted, Ipv4Packet.minimumHeaderLength, IcmpPacket.headerLength]
    omega

/-- A padded datagram with options and three octets of payload has no time left to live, and
there is no route to its destination.  Its sender, whose hardware address is not known, is told
about the time. -/
theorem provoked_error_output_expired :
    let lan : Interface := ⟨"lan", ⟨2, 0, 0, 0, 0, 1⟩, ⟨10, 0, 0, 1⟩⟩
    let peer : Ipv4Address := ⟨10, 0, 0, 7⟩
    let route : Route := ⟨⟨10, 0, 0, 0⟩, .unspecified, ⟨255, 255, 255, 0⟩, "lan"⟩
    let routes : RoutingTable := ⟨[route], List.pairwise_singleton _ _⟩
    let router : Router := ⟨⟨[lan], List.nodup_singleton _⟩, routes, {}⟩
    let environment : Environment := ⟨fun _ _ => none, fun _ => 0⟩
    let datagram := (Ipv4Packet.mk [0x46, 0, 0, 27, 0x60, 0xC3, 0, 0, 1, 17, 0, 0,
      10, 0, 0, 7, 10, 2, 3, 4, 1, 1, 1, 1, 0xCA, 0xFE, 0xBA]).fillChecksum.octets
    let packet : Ipv4Packet := ⟨datagram ++ List.replicate 19 0⟩
    let octets := EthernetFrame.assemble lan.mac ⟨2, 0, 0, 0, 0, 7⟩ EthernetFrame.ipv4Type
      packet.octets
    let outcome := router.step environment .initial (.arrival "lan" octets)
    build [lan] routes {} = .ok router ∧ router.Presents "lan" octets lan packet ∧
    router.Provokes packet .timeExceeded ∧
    ∃ outbound error, router.Issues outbound error ∧
      error.Bears lan.address peer 64 .timeExceeded datagram ∧ error.totalLength = 55 ∧
      router.Outputs environment .initial outbound outcome := by
  intro lan peer route routes router environment datagram packet octets outcome
  have built : build [lan] routes {} = .ok router := rfl
  have presents : router.Presents "lan" octets lan packet := {
    found := by decide +kernel
    addressed := Or.inl (by decide +kernel)
    labelled := by decide +kernel
    readable := by decide +kernel
    intact := by decide +kernel }
  have provokes : router.Provokes packet .timeExceeded :=
    .expired (by decide +kernel) (by decide +kernel)
  have routed : router.routes.lookup packet.source = some route := by decide +kernel
  have quoted : packet.header ++ packet.payload.take 8 = datagram := by decide +kernel
  have length : 28 + packet.headerLength + min 8 packet.payload.length = 55 := by decide +kernel
  refine ⟨built, presents, provokes, ?_⟩
  rcases provoked_error_output built presents provokes environment .initial with
    ⟨-, ⟨unrouted, -⟩ | ⟨outbound, error, issues, bears, total, outputs⟩⟩
  · rw [routed] at unrouted
    cases unrouted
  · rw [quoted] at bears
    exact ⟨outbound, error, issues, bears, total.trans length, outputs⟩

/-- What an ICMP message that has arrived in a frame carries fits another frame. -/
theorem Presents.length_data_le (presents : router.Presents name octets arrival packet) :
    (IcmpPacket.mk packet.payload).data.length ≤ maximumDataLength := by
  obtain ⟨-, short, read⟩ := Ipv4Packet.ofFrame_eq_ok_iff.mp presents.readable
  obtain ⟨-, -, minimum, -, total, -⟩ := Ipv4Packet.ofOctets_eq_ok_iff.mp read
  rw [List.length_drop] at total
  rw [IcmpPacket.data, List.length_drop, Ipv4Packet.payload, List.length_take]
  simp only [maximumDataLength, EthernetFrame.maximumLength, EthernetFrame.headerLength,
    Ipv4Packet.minimumHeaderLength, IcmpPacket.headerLength] at short minimum total ⊢
  omega

/-- An echo request for one of the router's addresses is answered from that address with one
datagram, which carries the identifier, the sequence number and all data of the request and has no
options.  If the next hop is not known, the datagram is the last that waits for it.  Only if there
is no route to the source of the request is there no reply, and then nothing happens. -/
theorem echo_request_answered {interfaces : List Interface} {routes : RoutingTable}
    {settings : Settings} (built : build interfaces routes settings = .ok router)
    (presents : router.Presents name octets arrival packet) (brings : router.Brings packet)
    (request : (IcmpPacket.mk packet.payload).typeCode = IcmpMessage.echoRequestType)
    (environment : Environment) (state : RouterState) :
    let icmp := IcmpPacket.mk packet.payload
    let outcome := router.step environment state (.arrival name octets)
    (router.routes.lookup packet.source = none ∧
      outcome = (Turn.start state, .error (.noRoute packet.source))) ∨
    ∃ outbound reply, router.Issues outbound reply ∧
      reply.Bears packet.destination packet.source router.settings.icmpTimeToLive
        (.echoReply icmp.identifier icmp.sequenceNumber) icmp.data ∧
      router.Outputs environment state outbound outcome ∧
      (router.hardwareAddress? state outbound.nextHop = none →
        outcome.1.state.pending.framesFor outbound.nextHop =
          state.pending.framesFor outbound.nextHop ++ [outbound.frame]) := by
  intro icmp outcome
  have decision : ∀ identification, router.dispatch identification arrival octets =
      router.originateMessage identification packet.destination packet.source
        (.echoReply icmp.identifier icmp.sequenceNumber) icmp.data := by
    intro identification
    rw [presents.dispatch_of_owned brings.owned, brings.answer_eq]
    exact if_neg (not_not_intro request)
  rcases presents.outputs_or_unrouted (connected_of_build built) presents.length_data_le
    decision environment state with unrouted | ⟨outbound, reply, issues, bears, outputs⟩
  · exact Or.inl unrouted
  · exact Or.inr ⟨outbound, reply, issues, bears, outputs, outputs.framesFor_eq⟩

/-- A padded ping with options and an odd length of data has no time left to live.  It arrives on
one interface for the address of another, from which it is answered at once. -/
theorem echo_request_answered_across :
    let lan : Interface := ⟨"lan", ⟨2, 0, 0, 0, 0, 1⟩, ⟨10, 0, 0, 1⟩⟩
    let wan : Interface := ⟨"wan", ⟨2, 0, 0, 0, 0, 2⟩, ⟨10, 0, 1, 1⟩⟩
    let route : Route := ⟨⟨10, 0, 0, 0⟩, .unspecified, ⟨255, 255, 255, 0⟩, "lan"⟩
    let routes : RoutingTable := ⟨[route], List.pairwise_singleton _ _⟩
    let router : Router := ⟨⟨[lan, wan], by decide⟩, routes, {}⟩
    let environment : Environment := ⟨fun _ _ => none, fun _ => 0⟩
    let peer : NeighborEntry := ⟨⟨10, 0, 0, 7⟩, ⟨2, 0, 0, 0, 0, 7⟩, 0⟩
    let state : RouterState := ⟨0, ⟨[peer], 0⟩, []⟩
    let ping := IcmpPacket.ofMessage (.echoRequest 7 1) [0xCA, 0xFE, 0xBA]
    let datagram := (Ipv4Packet.mk ([0x46, 0, 0, 35, 0x60, 0xC3, 0, 0, 1, 1, 0, 0,
      10, 0, 0, 7, 10, 0, 1, 1, 1, 1, 1, 1] ++ ping.octets)).fillChecksum.octets
    let packet : Ipv4Packet := ⟨datagram ++ List.replicate 11 0⟩
    let octets := EthernetFrame.assemble lan.mac peer.mac EthernetFrame.ipv4Type packet.octets
    let outcome := router.step environment state (.arrival "lan" octets)
    build [lan, wan] routes {} = .ok router ∧ router.Presents "lan" octets lan packet ∧
    router.Brings packet ∧
    ∃ outbound reply, router.Issues outbound reply ∧
      reply.Bears wan.address peer.address 64 (.echoReply 7 1) [0xCA, 0xFE, 0xBA] ∧
      outcome = (⟨state, [.accepted outbound,
        .handed ⟨"lan", outbound.complete peer.mac⟩ none (some outbound)]⟩, .ok ()) := by
  intro lan wan route routes router environment peer state ping datagram packet octets outcome
  have built : build [lan, wan] routes {} = .ok router := rfl
  have presents : router.Presents "lan" octets lan packet := {
    found := by decide +kernel
    addressed := Or.inl (by decide +kernel)
    labelled := by decide +kernel
    readable := by decide +kernel
    intact := by decide +kernel }
  have brings : router.Brings packet := {
    owned := by decide +kernel
    protocol := by decide +kernel
    long := by decide +kernel
    intact := by decide +kernel }
  have routed : router.routes.lookup packet.source = some route := by decide +kernel
  refine ⟨built, presents, brings, ?_⟩
  rcases echo_request_answered built presents brings (by decide +kernel) environment state with
    ⟨unrouted, -⟩ | ⟨outbound, reply, issues, bears, outputs, -⟩
  · rw [routed] at unrouted
    cases unrouted
  · have sender : packet.source = peer.address := by decide +kernel
    have isPing : IcmpPacket.mk packet.payload = ping := by decide +kernel
    have carried : ping.identifier = 7 ∧ ping.sequenceNumber = 1 ∧
        ping.data = [0xCA, 0xFE, 0xBA] := by decide +kernel
    have pinged : packet.destination = wan.address := by decide +kernel
    have towards : outbound.nextHop = peer.address ∧ outbound.egress = lan := by
      obtain ⟨other, found, leaves, nextHop⟩ := issues.routed
      rw [bears.holds.sentTo, routed] at found
      cases found
      rw [bears.holds.sentTo] at nextHop
      exact ⟨nextHop.trans sender, Option.some.inj leaves.symm⟩
    have known : router.hardwareAddress? state outbound.nextHop = some peer.mac := by
      rw [towards.1]
      decide +kernel
    have handed := outputs.eq_of_known known
    rw [towards.2] at handed
    rw [isPing, carried.1, carried.2.1, carried.2.2, pinged, sender] at bears
    exact ⟨outbound, reply, issues, bears, handed⟩

end Router

end Ipv4Router
