import Ipv4Router.Proofs.CheckedMessages
import Ipv4Router.Proofs.DroppedFrames

/-!
# Messages of the router's own

The data of an ICMP message is filled into the place that the packet has for it.  How large
that place is follows from the length of the packet, which is kept in a word.  A message
therefore leaves the router with as much of its data as the length modulo `65536` tells.

For data of less than `65536` octets this is all of it: the message is sent whole, or refused
if it does not fit a frame.  Longer data is cut without notice if what is left of its length
fits a frame.  The router itself has no such data, since what it answers and quotes has arrived
in a frame.
-/

namespace Ipv4Router

namespace Router

/-- An outbound datagram of the router's own takes an ICMP message from one address to another,
along the route of the latter.  Its frame can be read before and after it is completed. -/
structure Conveys (router : Router) (outbound : Outbound) (source destination : Ipv4Address)
    (message : IcmpMessage) (data : Octets) : Prop where
  own : outbound.frame.origin = .originated
  readable : ∃ packet, packet.Holds source destination message data ∧
    packet.timeToLive = router.settings.icmpTimeToLive ∧
    Ipv4Packet.ofFrame outbound.frame.octets = .ok packet ∧
    ∀ mac, Ipv4Packet.ofFrame (outbound.complete mac) = .ok packet
  routed : ∃ route, router.routes.lookup destination = some route ∧
    router.interfaces.byName? route.interface = some outbound.egress ∧
    outbound.nextHop = route.nextHop destination

/-- The greatest length of data that fits a frame behind its three headers. -/
def maximumDataLength : Nat :=
  EthernetFrame.maximumLength -
    (EthernetFrame.headerLength + Ipv4Packet.minimumHeaderLength + IcmpPacket.headerLength)

variable {router : Router} {identification : UInt16} {source destination : Ipv4Address}
  {message : IcmpMessage} {data : Octets}

/-- Of the data only as much counts as the length modulo the size of a word tells. -/
theorem originateMessage_take :
    router.originateMessage identification source destination message
      (data.take (data.length % 65536)) =
    router.originateMessage identification source destination message data := by
  have kept : (data.take (data.length % 65536)).length = data.length % 65536 :=
    List.length_take_of_le (Nat.mod_le _ _)
  have wrapped : (IcmpPacket.headerLength + data.length % 65536) % 65536 =
      (IcmpPacket.headerLength + data.length) % 65536 := by omega
  have within : (IcmpPacket.headerLength + data.length) % 65536 - IcmpPacket.headerLength ≤
      data.length % 65536 := by
    simp only [IcmpPacket.headerLength]
    omega
  simp only [originateMessage, kept, wrapped, List.take_take, Nat.min_eq_left within]

theorem originateDatagram_of_long {datagram : Octets}
    (long : EthernetFrame.maximumLength < EthernetFrame.headerLength + datagram.length) :
    router.originateDatagram datagram = .error (.packet .malformed) := by
  have notShort : ¬ EthernetFrame.headerLength + datagram.length < EthernetFrame.headerLength := by
    omega
  simp only [originateDatagram, originateFrame, Ipv4Packet.ofFrame, EthernetFrame.ofOctets,
    EthernetFrame.length_assemble, if_neg notShort, if_pos long]

/-- Data that does not fit a frame is refused. -/
theorem originateMessage_of_long (long : maximumDataLength < data.length)
    (short : data.length < 65536) :
    ∃ fault, router.originateMessage identification source destination message data =
      .error (.packet fault) := by
  rw [originateMessage]
  simp only
  split
  · exact ⟨_, rfl⟩
  split
  · exact ⟨_, rfl⟩
  next notWrapped =>
  refine ⟨_, originateDatagram_of_long ?_⟩
  simp only [Ipv4Header.length_attach, IcmpPacket.length_ofMessage, List.length_take]
  simp only [maximumDataLength, EthernetFrame.maximumLength, EthernetFrame.headerLength,
    Ipv4Packet.minimumHeaderLength, IcmpPacket.headerLength] at long notWrapped ⊢
  omega

/-- Data that fits a frame is sent whole if there is a route to its destination. -/
theorem originateMessage_of_fits (connected : router.Connected)
    (fits : data.length ≤ maximumDataLength) :
    (router.routes.lookup destination = none ∧
      router.originateMessage identification source destination message data =
        .error (.noRoute destination)) ∨
    ∃ outbound, router.Conveys outbound source destination message data ∧
      router.originateMessage identification source destination message data = .ok outbound := by
  simp only [maximumDataLength, EthernetFrame.maximumLength, EthernetFrame.headerLength,
    Ipv4Packet.minimumHeaderLength, IcmpPacket.headerLength] at fits
  let header := router.icmpHeader identification source destination
    (IcmpPacket.headerLength + data.length)
  let packet : Ipv4Packet := ⟨header.attach (IcmpPacket.ofMessage message data).octets⟩
  let octets := EthernetFrame.assemble MacAddress.unspecified MacAddress.unspecified
    EthernetFrame.ipv4Type packet.octets
  have short : header.packetLength ≤ 65535 := by
    change Ipv4Packet.minimumHeaderLength + (IcmpPacket.headerLength + data.length) ≤ 65535
    simp only [Ipv4Packet.minimumHeaderLength, IcmpPacket.headerLength]
    omega
  have holds : packet.Holds source destination message data :=
    Ipv4Header.holds_attach message rfl rfl short
  have readable : Ipv4Packet.ofFrame octets = .ok packet := by
    rw [Ipv4Packet.ofFrame_eq_ok_iff, EthernetFrame.length_assemble, Ipv4Header.length_attach,
      IcmpPacket.length_ofMessage]
    refine ⟨Nat.le_add_right _ _, ?_, ?_⟩
    · simp only [EthernetFrame.headerLength, EthernetFrame.maximumLength,
        Ipv4Packet.minimumHeaderLength, IcmpPacket.headerLength]
      omega
    · have payload := EthernetFrame.payload_assemble MacAddress.unspecified
        MacAddress.unspecified EthernetFrame.ipv4Type packet.octets
      rw [EthernetFrame.payload] at payload
      rw [payload]
      exact Ipv4Header.ofOctets_attach short (Nat.le_of_eq (IcmpPacket.length_ofMessage _ _).symm)
  have originated : router.originateMessage identification source destination message data =
      router.originateFrame octets :=
    originateMessage_of_short short
  rw [originated]
  simp only [originateFrame, readable, holds.sentTo]
  cases routed : router.routes.lookup destination with
  | none => exact Or.inl ⟨rfl, rfl⟩
  | some route =>
      obtain ⟨egress, leaves⟩ := connected route (RoutingTable.mem_of_lookup routed)
      refine Or.inr ⟨⟨egress, route.nextHop destination, ⟨octets, .originated⟩⟩, ?_, ?_⟩
      · exact {
          own := rfl
          readable := ⟨packet, holds, header.timeToLive_attach _, readable,
            fun mac => Outbound.ofFrame_complete_of_originated mac rfl readable⟩
          routed := ⟨route, routed, leaves, rfl⟩ }
      · exact sendAlong_eq_ok_iff.mpr ⟨egress, leaves, rfl⟩

theorem Conveys.data_eq {outbound : Outbound} {otherSource otherDestination : Ipv4Address}
    {otherMessage : IcmpMessage} {otherData : Octets}
    (conveys : router.Conveys outbound source destination message data)
    (other : router.Conveys outbound otherSource otherDestination otherMessage otherData) :
    data = otherData := by
  obtain ⟨packet, holds, -, readable, -⟩ := conveys.readable
  obtain ⟨otherPacket, otherHolds, -, otherReadable, -⟩ := other.readable
  rw [readable] at otherReadable
  cases otherReadable
  exact holds.data_eq otherHolds

/-- A router that is to send an ICMP message looks at the length of the data modulo `65536`.  If
so many octets do not fit a frame, it reports a fault and does nothing.  Otherwise, unless no
route leads to the destination, it outputs a datagram with so many octets of the data.

Hence data of less than `65536` octets is sent whole or not at all. -/
theorem message_data_modulo_word {interfaces : List Interface} {routes : RoutingTable}
    {settings : Settings} (built : build interfaces routes settings = .ok router)
    (environment : Environment) (turn : Turn) (source destination : Ipv4Address)
    (message : IcmpMessage) (data : Octets) :
    let outcome := router.submit environment turn (fun identification =>
      router.originateMessage identification source destination message data)
    let kept := data.take (data.length % 65536)
    (data.length < 65536 → kept = data) ∧
    (maximumDataLength < data.length % 65536 →
      ∃ fault, outcome = (turn, .error (.packet fault))) ∧
    (data.length % 65536 ≤ maximumDataLength →
      (router.routes.lookup destination = none ∧
        outcome = (turn, .error (.noRoute destination))) ∨
      ∃ outbound, router.Conveys outbound source destination message kept ∧
        outcome = router.output environment (turn.record (.accepted outbound)) outbound) := by
  intro outcome kept
  have keptLength : kept.length = data.length % 65536 :=
    List.length_take_of_le (Nat.mod_le _ _)
  have outcomeEq : outcome = router.submit environment turn (fun identification =>
      router.originateMessage identification source destination message kept) := by
    simp only [outcome, kept, originateMessage_take]
  rw [outcomeEq, ← keptLength]
  refine ⟨?_, ?_, ?_⟩
  · intro short
    exact List.take_of_length_le (Nat.le_of_eq (Nat.mod_eq_of_lt short).symm)
  · intro long
    have short : kept.length < 65536 := by
      rw [keptLength]
      exact Nat.mod_lt _ (by decide)
    obtain ⟨fault, refused⟩ := originateMessage_of_long long short
    exact ⟨fault, submit_of_error refused⟩
  · intro fits
    rcases originateMessage_of_fits (connected_of_build built) fits with
      ⟨unrouted, refused⟩ | ⟨outbound, conveys, decided⟩
    · exact Or.inl ⟨unrouted, submit_of_error refused⟩
    · exact Or.inr ⟨outbound, conveys, submit_of_ok decided⟩

/-- One octet more than fits a frame is refused. -/
theorem message_data_modulo_word_refused :
    let lan : Interface := ⟨"lan", ⟨2, 0, 0, 0, 0, 1⟩, ⟨10, 0, 0, 1⟩⟩
    let peer : Ipv4Address := ⟨10, 0, 0, 7⟩
    let route : Route := ⟨⟨10, 0, 0, 0⟩, .unspecified, ⟨255, 255, 255, 0⟩, "lan"⟩
    let routes : RoutingTable := ⟨[route], List.pairwise_singleton _ _⟩
    let router : Router := ⟨⟨[lan], List.nodup_singleton _⟩, routes, {}⟩
    let environment : Environment := ⟨fun _ _ => none, fun _ => 0⟩
    let turn := Turn.start .initial
    let reply := fun data => router.submit environment turn (fun identification =>
      router.originateMessage identification lan.address peer (.echoReply 9 9) data)
    build [lan] routes {} = .ok router ∧
    (∃ fault, reply (List.replicate 1477 0) = (turn, .error (.packet fault))) ∧
    ∃ outbound, router.Conveys outbound lan.address peer (.echoReply 9 9) [1, 2, 3] ∧
      reply [1, 2, 3] = router.output environment (turn.record (.accepted outbound)) outbound := by
  intro lan peer route routes router environment turn reply
  have built : build [lan] routes {} = .ok router := rfl
  refine ⟨built, ?_, ?_⟩
  · obtain ⟨-, refused, -⟩ := message_data_modulo_word built environment turn lan.address peer
      (.echoReply 9 9) (List.replicate 1477 0)
    rw [List.length_replicate] at refused
    exact refused (by decide)
  · obtain ⟨-, -, sent⟩ := message_data_modulo_word built environment turn lan.address peer
      (.echoReply 9 9) [1, 2, 3]
    rcases sent (by decide) with ⟨unrouted, -⟩ | sent
    · exact absurd unrouted (by decide +kernel)
    · exact sent

/-- Of `65536` octets of data none is sent, and yet the message is handed to the link and
nothing is reported. -/
theorem message_cut_without_notice :
    let lan : Interface := ⟨"lan", ⟨2, 0, 0, 0, 0, 1⟩, ⟨10, 0, 0, 1⟩⟩
    let peer : Interface := ⟨"lan", ⟨2, 0, 0, 0, 0, 7⟩, ⟨10, 0, 0, 7⟩⟩
    let route : Route := ⟨⟨10, 0, 0, 0⟩, .unspecified, ⟨255, 255, 255, 0⟩, "lan"⟩
    let routes : RoutingTable := ⟨[route], List.pairwise_singleton _ _⟩
    let router : Router := ⟨⟨[lan], List.nodup_singleton _⟩, routes, {}⟩
    let environment : Environment := ⟨fun _ _ => none, fun _ => 0⟩
    let answer : RouterEvent := .arrival "lan" (peer.arpReplyTo (arpRequest lan peer.address)).frame
    let turn := Turn.start (router.run .initial [(environment, answer)])
    let data : Octets := List.replicate 65536 0xD7
    let outcome := router.submit environment turn (fun identification =>
      router.originateMessage identification lan.address peer.address (.echoReply 9 9) data)
    build [lan] routes {} = .ok router ∧ outcome.2 = .ok () ∧
    ∃ outbound, outcome.1.journal = [.accepted outbound,
        .handed ⟨"lan", outbound.complete peer.mac⟩ none (some outbound)] ∧
      router.Conveys outbound lan.address peer.address (.echoReply 9 9) [] ∧
      ¬ router.Conveys outbound lan.address peer.address (.echoReply 9 9) data := by
  intro lan peer route routes router environment answer turn data outcome
  have built : build [lan] routes {} = .ok router := rfl
  have nothingKept : data.take (data.length % 65536) = [] := by
    rw [List.length_replicate, Nat.mod_self, List.take_zero]
  have outcomeEq : outcome = router.submit environment turn (fun identification =>
      router.originateMessage identification lan.address peer.address (.echoReply 9 9) []) := by
    simp only [outcome, ← nothingKept, originateMessage_take]
  have found : router.routes.lookup peer.address = some route := by decide +kernel
  have fits : ([] : Octets).length ≤ maximumDataLength := Nat.zero_le _
  rcases originateMessage_of_fits (connected_of_build built) fits with
    ⟨unrouted, -⟩ | ⟨outbound, conveys, decided⟩
  · rw [unrouted] at found
    cases found
  · have towards : outbound.nextHop = peer.address := by
      obtain ⟨other, routed, -, nextHop⟩ := conveys.routed
      rw [found] at routed
      cases routed
      exact nextHop
    have leaves : outbound.egress = lan := by
      obtain ⟨other, routed, leaves, -⟩ := conveys.routed
      rw [found] at routed
      cases routed
      exact Option.some.inj leaves.symm
    have known : router.hardwareAddress? turn.state outbound.nextHop = some peer.mac := by
      rw [towards]
      decide +kernel
    have sent : outcome = (turn.record (.accepted outbound)).transmit environment
        ⟨outbound.egress.name, outbound.complete peer.mac⟩ (some outbound) :=
      outcomeEq.trans (submit_of_known decided known)
    rw [leaves] at sent
    refine ⟨built, by rw [sent]; rfl, outbound, by rw [sent]; rfl, conveys, ?_⟩
    intro whole
    have sameLength := congrArg List.length (conveys.data_eq whole)
    rw [List.length_nil, List.length_replicate] at sameLength
    cases sameLength

end Router

end Ipv4Router
