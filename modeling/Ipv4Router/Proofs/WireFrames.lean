import Ipv4Router.Proofs.HandedFrames
import Ipv4Router.Proofs.WrittenPackets

/-!
# Frames on the wire

Every frame that a router hands to the link is well formed.  It has the length of
a frame and comes from the hardware address of the interface that it leaves
through.  What it holds is an ARP packet of that interface, or a datagram without
padding whose checksum matches; and a datagram of the router's own holds a known
ICMP message, intact as well.

For ARP packets this is an invariant of the actions of a turn.  For datagrams it
follows from what made them deliverable and from the form that their frames are
completed to.
-/

namespace Ipv4Router

/-- Where the frame of an ARP packet goes: a request to all, a reply to the one who
asked. -/
def ArpPacket.recipient (packet : ArpPacket) : MacAddress :=
  match packet.operation with
  | .request => MacAddress.broadcast
  | .reply => packet.targetMac

namespace EthernetFrame

/-- The frame holds an ARP packet in which a hardware address speaks for itself. -/
structure CarriesArp (frame : EthernetFrame) (packet : ArpPacket) (speaker : MacAddress) :
    Prop where
  labelled : frame.payloadType = arpType
  exact : frame.payload.length = ArpPacket.length
  readable : ArpPacket.ofOctets frame.payload = .ok packet
  spoken : packet.sourceMac = speaker
  addressed : frame.destination = packet.recipient

/-- The frame holds an IPv4 packet, without padding and with a checksum that
matches. -/
structure CarriesDatagram (frame : EthernetFrame) (packet : Ipv4Packet) : Prop where
  labelled : frame.payloadType = ipv4Type
  exact : frame.payload.length = packet.totalLength
  readable : Ipv4Packet.ofOctets frame.payload = .ok packet
  intact : packet.verifyChecksum = .ok ()

end EthernetFrame

/-- The packet holds a known ICMP message, with a checksum that matches. -/
def Ipv4Packet.CarriesMessage (packet : Ipv4Packet) : Prop :=
  packet.protocol = Ipv4Header.icmpProtocol ∧
    ∃ icmp message, IcmpPacket.ofOctets packet.payload = .ok icmp ∧
      icmp.verifyChecksum = .ok () ∧ icmp.message = .ok message

namespace Router

/-- An interface of the router sends an ARP packet. -/
def SpeaksArp (router : Router) (transmission : Transmission) : Prop :=
  ∃ (interface : Interface) (packet : ArpPacket),
    router.interfaces.byName? interface.name = some interface ∧
    packet.sourceMac = interface.mac ∧
    transmission = ⟨interface.name, EthernetFrame.assemble packet.recipient interface.mac
      EthernetFrame.arpType packet.toOctets⟩

variable {router : Router} {environment : Environment}

theorem speaksArp_arpRequestFor {interface : Interface} (target : Ipv4Address)
    (known : router.interfaces.byName? interface.name = some interface) :
    router.SpeaksArp (interface.arpRequestFor target) :=
  ⟨interface, arpRequest interface target, known, rfl, rfl⟩

theorem speaksArp_arpReplyTo {arrival : Interface} (request : ArpPacket)
    (known : router.interfaces.byName? arrival.name = some arrival) :
    router.SpeaksArp (arrival.arpReplyTo request) :=
  ⟨arrival, arpReply arrival request, known, rfl, rfl⟩

theorem carriesArp_assemble (packet : ArpPacket) :
    (EthernetFrame.mk (EthernetFrame.assemble packet.recipient packet.sourceMac
      EthernetFrame.arpType packet.toOctets)).CarriesArp packet packet.sourceMac where
  labelled := EthernetFrame.payloadType_assemble _ _ _ _
  exact := packet.length_toOctets
  readable := by
    rw [EthernetFrame.payload_assemble, ← List.append_nil packet.toOctets]
    exact packet.ofOctets_toOctets []
  spoken := rfl
  addressed := EthernetFrame.destination_assemble _ _ _ _

end Router

/-- A frame without a datagram in a turn is an ARP packet of one of the router's
interfaces. -/
def Turn.SpeaksArp (router : Router) (turn : Turn) : Prop :=
  ∀ transmission refusal, .handed transmission refusal none ∈ turn.journal →
    router.SpeaksArp transmission

namespace Router

variable {router : Router} {environment : Environment}

section Turn

variable {turn : Turn}

theorem speaksArp_record (speaks : turn.SpeaksArp router) {entry : JournalEntry}
    (new : ∀ transmission refusal, entry = .handed transmission refusal none →
      router.SpeaksArp transmission) : (turn.record entry).SpeaksArp router := by
  intro transmission refusal member
  rcases List.mem_append.mp member with old | last
  · exact speaks transmission refusal old
  · exact new transmission refusal (List.mem_singleton.mp last).symm

theorem speaksArp_output {outbound : Outbound} (delivers : router.Delivers outbound)
    (speaks : turn.SpeaksArp router) :
    (router.output environment turn outbound).1.SpeaksArp router := by
  cases known : router.hardwareAddress? turn.state outbound.nextHop with
  | some mac =>
      rw [output_of_known known]
      exact speaksArp_record speaks (by simp)
  | none =>
      obtain ⟨asked, waiting, onlyAsked⟩ := output_of_unknown environment delivers known
      rw [waiting]
      intro transmission refusal member
      rcases List.mem_append.mp member with old | new
      · exact speaks transmission refusal old
      · obtain ⟨_, isRequest⟩ := onlyAsked _ new
        cases isRequest
        exact speaksArp_arpRequestFor _ delivers.byName?_egress

end Turn

theorem Action.speaksArp {stage next : Stage} (action : router.Action environment stage next)
    (speaks : stage.turn.SpeaksArp router) : next.turn.SpeaksArp router := by
  cases action with
  | accept delivers behind => exact speaksArp_output delivers (speaksArp_record speaks (by simp))
  | resume delivers known => exact speaksArp_output delivers (speaksArp_record speaks (by simp))
  | abandon => exact speaksArp_record speaks (by simp)
  | ask known =>
      apply speaksArp_record speaks
      intro transmission refusal isRequest
      cases isRequest
      exact speaksArp_arpRequestFor _ known
  | reply known owned =>
      apply speaksArp_record speaks
      intro transmission refusal isReply
      cases isReply
      exact speaksArp_arpReplyTo _ known

theorem Consistent.speaksArp_step {state : RouterState} (consistent : router.Consistent state)
    (environment : Environment) (event : RouterEvent) :
    (router.step environment state event).1.SpeaksArp router := by
  apply Course.preserves (fun action => Action.speaksArp action)
    (step_course consistent environment event)
  intro transmission refusal member
  rw [journal_opening] at member
  cases member

/-- A packet that holds a message that the router writes, behind its header. -/
theorem carriesMessage_attach {header : Ipv4Header} (message : IcmpMessage) {data : Octets}
    (protocol : header.protocol = Ipv4Header.icmpProtocol)
    (whole : header.payloadLength = IcmpPacket.headerLength + data.length)
    (short : header.packetLength ≤ 65535) :
    (Ipv4Packet.mk
      (header.attach (IcmpPacket.ofMessage message data).octets)).CarriesMessage := by
  have written := Ipv4Header.holds_attach message protocol whole short
  obtain ⟨icmp, read, intact, known, -⟩ := written.holds
  exact ⟨written.protocol, icmp, message, read, intact, known⟩

theorem Delivers.carriesDatagram_of_originated {outbound : Outbound}
    (delivers : router.Delivers outbound) (own : outbound.frame.origin = .originated)
    (mac : MacAddress) :
    ∃ packet, (EthernetFrame.mk (outbound.complete mac)).CarriesDatagram packet ∧
      packet.timeToLive = router.settings.icmpTimeToLive ∧ packet.CarriesMessage := by
  obtain ⟨packet, route, admits, -, -⟩ := delivers
  obtain ⟨header, message, data, octets, protocol, timeToLive, whole, short⟩ :=
    admits.composed own
  have long := (Ipv4Packet.ofFrame_eq_ok_iff.mp admits.readable).1
  have payload : (EthernetFrame.mk (outbound.complete mac)).payload =
      header.attach (IcmpPacket.ofMessage message data).octets := by
    rw [Outbound.payload_complete_of_originated mac own long, octets,
      EthernetFrame.payload_assemble]
  have written : (IcmpPacket.ofMessage message data).octets.length = header.payloadLength := by
    rw [IcmpPacket.length_ofMessage, whole]
  refine ⟨⟨header.attach (IcmpPacket.ofMessage message data).octets⟩, ?_,
    (Ipv4Header.timeToLive_attach header _).trans timeToLive,
    carriesMessage_attach message protocol whole short⟩
  exact {
    labelled := (outbound.payloadType_complete mac long).trans admits.labelled
    exact := by
      rw [payload, Ipv4Header.totalLength_attach _ short, Ipv4Header.length_attach, written,
        Ipv4Header.packetLength]
    readable := by
      rw [payload]
      exact Ipv4Header.ofOctets_attach short (Nat.le_of_eq written.symm)
    intact := Ipv4Header.verifyChecksum_attach header _ }

theorem Delivers.carriesDatagram_of_forwarded {outbound : Outbound}
    (delivers : router.Delivers outbound) {name : String}
    (foreign : outbound.frame.origin = .forwarded name) (mac : MacAddress) :
    ∃ packet, (EthernetFrame.mk (outbound.complete mac)).CarriesDatagram packet ∧
      1 ≤ packet.timeToLive.toNat := by
  obtain ⟨packet, route, admits, -, -⟩ := delivers
  obtain ⟨long, -, read⟩ := Ipv4Packet.ofFrame_eq_ok_iff.mp admits.readable
  obtain ⟨-, -, minimum, ordered, total, rfl⟩ := Ipv4Packet.ofOctets_eq_ok_iff.mp read
  have payload := outbound.payload_complete_of_forwarded mac foreign
  have lively := (admits.forwardable name foreign).1
  have aged := Ipv4Packet.toNat_timeToLive_onward read (Nat.le_of_succ_le lively)
  refine ⟨_, ⟨(outbound.payloadType_complete mac long).trans admits.labelled, ?_, ?_,
    Ipv4Packet.verifyChecksum_onward read⟩, by omega⟩
  · rw [payload, EthernetFrame.payload, Ipv4Packet.length_onward total]
    exact (Ipv4Packet.sameShape_onward (Nat.le_trans minimum ordered)).totalLength_eq.symm
  · rw [payload]
    exact Ipv4Packet.ofOctets_onward read

theorem Delivers.carriesDatagram {outbound : Outbound} (delivers : router.Delivers outbound)
    (mac : MacAddress) :
    ∃ packet, (EthernetFrame.mk (outbound.complete mac)).CarriesDatagram packet ∧
      match outbound.frame.origin with
      | .originated =>
          packet.timeToLive = router.settings.icmpTimeToLive ∧ packet.CarriesMessage
      | .forwarded _ => 1 ≤ packet.timeToLive.toNat := by
  cases origin : outbound.frame.origin with
  | originated => exact delivers.carriesDatagram_of_originated origin mac
  | forwarded name => exact delivers.carriesDatagram_of_forwarded origin mac

/-- Every frame handed to the link leaves through an interface of the router, has the
length of a frame and comes from the hardware address of that interface.  It holds an
ARP packet of the interface, addressed as its operation demands, or a datagram
without padding and with a checksum that matches.  A forwarded datagram has some time
left to live, and any other holds an ICMP message of the router's own. -/
theorem wire_frames_well_formed (router : Router) (events : List (Environment × RouterEvent))
    (environment : Environment) (event : RouterEvent) {transmission : Transmission}
    {refusal : Option LinkFailure} {datagram : Option Outbound}
    (handed : .handed transmission refusal datagram ∈
      (router.step environment (router.run .initial events) event).1.journal) :
    let frame := EthernetFrame.mk transmission.frame
    ∃ interface ∈ router.interfaces.all, transmission.interface = interface.name ∧
      EthernetFrame.headerLength ≤ transmission.frame.length ∧
      transmission.frame.length ≤ EthernetFrame.maximumLength ∧
      frame.source = interface.mac ∧
      ((datagram = none ∧ ∃ packet, frame.CarriesArp packet interface.mac) ∨
        ∃ outbound packet, datagram = some outbound ∧ frame.CarriesDatagram packet ∧
          match outbound.frame.origin with
          | .originated =>
              packet.timeToLive = router.settings.icmpTimeToLive ∧ packet.CarriesMessage
          | .forwarded _ => 1 ≤ packet.timeToLive.toNat) := by
  intro frame
  have consistent := consistent_run_initial router events
  cases datagram with
  | none =>
      obtain ⟨interface, packet, known, own, rfl⟩ :=
        consistent.speaksArp_step environment event _ _ handed
      have carries := carriesArp_assemble packet
      rw [own] at carries
      refine ⟨interface, List.mem_of_find?_eq_some known, rfl, ?_, ?_,
        EthernetFrame.source_assemble _ _ _ _, Or.inl ⟨rfl, packet, carries⟩⟩
      · rw [EthernetFrame.length_assemble]
        exact Nat.le_add_right _ _
      · rw [EthernetFrame.length_assemble, ArpPacket.length_toOctets]
        decide
  | some outbound =>
      obtain ⟨delivers, mac, -, rfl⟩ := consistent.truthful_step environment event _ handed
      have found := delivers.byName?_egress
      obtain ⟨packet, route, admits, -, -⟩ := id delivers
      obtain ⟨long, short, -⟩ := Ipv4Packet.ofFrame_eq_ok_iff.mp admits.readable
      obtain ⟨longEnough, notLonger⟩ := outbound.length_complete mac admits.readable
      obtain ⟨sent, carries, fromOrigin⟩ := delivers.carriesDatagram mac
      exact ⟨outbound.egress, List.mem_of_find?_eq_some found, rfl, longEnough,
        Nat.le_trans notLonger short, outbound.source_complete mac long,
        Or.inr ⟨outbound, sent, rfl, carries, fromOrigin⟩⟩

/-- A neighbour that is known is answered at once when it sends an echo request. -/
theorem wire_frames_well_formed_echo :
    let lan : Interface := ⟨"lan", ⟨2, 0, 0, 0, 0, 1⟩, ⟨10, 0, 0, 1⟩⟩
    let peer : Interface := ⟨"lan", ⟨2, 0, 0, 0, 0, 7⟩, ⟨10, 0, 0, 7⟩⟩
    let route : Route := ⟨⟨10, 0, 0, 0⟩, .unspecified, ⟨255, 255, 255, 0⟩, "lan"⟩
    let router : Router :=
      ⟨⟨[lan], List.nodup_singleton _⟩, ⟨[route], List.pairwise_singleton _ _⟩, {}⟩
    let environment : Environment := ⟨fun _ _ => none, fun _ => 0⟩
    let answer : RouterEvent := .arrival "lan" (peer.arpReplyTo (arpRequest lan peer.address)).frame
    let ping : Ipv4Header := ⟨peer.address, lan.address, 1, 60, 0, 11⟩
    let echo : RouterEvent := .arrival "lan"
      (EthernetFrame.assemble lan.mac peer.mac EthernetFrame.ipv4Type
        (ping.attach (IcmpPacket.ofMessage (.echoRequest 7 1) [1, 2, 3]).octets))
    let pong : Ipv4Header := ⟨lan.address, peer.address, 1, 64, 0, 11⟩
    let outbound : Outbound := ⟨lan, peer.address, ⟨EthernetFrame.assemble .unspecified
      .unspecified EthernetFrame.ipv4Type
        (pong.attach (IcmpPacket.ofMessage (.echoReply 7 1) [1, 2, 3]).octets), .originated⟩⟩
    .handed ⟨"lan", outbound.complete peer.mac⟩ none (some outbound) ∈
      (router.step environment (router.run .initial [(environment, answer)]) echo).1.journal ∧
    ∃ packet, (EthernetFrame.mk (outbound.complete peer.mac)).CarriesDatagram packet ∧
      packet.timeToLive = 64 ∧ packet.CarriesMessage := by
  intro lan peer route router environment answer ping echo pong outbound
  have handed : .handed ⟨"lan", outbound.complete peer.mac⟩ none (some outbound) ∈
      (router.step environment (router.run .initial [(environment, answer)]) echo).1.journal := by
    decide +kernel
  refine ⟨handed, ?_⟩
  obtain ⟨-, -, -, -, -, -, ⟨none, -⟩ | ⟨sent, packet, same, carries, own⟩⟩ :=
    wire_frames_well_formed router [(environment, answer)] environment echo handed
  · cases none
  · cases same
    exact ⟨packet, carries, own⟩

end Router

end Ipv4Router
