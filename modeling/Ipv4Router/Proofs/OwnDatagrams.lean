import Ipv4Router.Proofs.DatagramLedger
import Ipv4Router.Proofs.OriginatedMessages
import Ipv4Router.Proofs.RacingReplies

/-!
# Datagrams of the router's own

A router that writes an ICMP message puts it behind a header without options, and the packet
fills its frame.  If a route leads to the destination, the datagram is output: it is handed to
the link at once if its next hop is known, and joins the queue of its next hop otherwise.

Whether it is handed over at once or after it has waited, the packet in the frame is the one that
was written.  What else waits in the queue, and what the router remembers besides, does not
matter: to release a frame adds to the journal, but does not change which addresses are known.
-/

namespace Ipv4Router

/-- The packet consists of a header without options and an ICMP message with its data. -/
structure Ipv4Packet.Bears (packet : Ipv4Packet) (source destination : Ipv4Address)
    (timeToLive : UInt8) (message : IcmpMessage) (data : Octets) : Prop where
  holds : packet.Holds source destination message data
  alive : packet.timeToLive = timeToLive
  plain : packet.headerLength = Ipv4Packet.minimumHeaderLength
  total : packet.totalLength =
    Ipv4Packet.minimumHeaderLength + (IcmpPacket.headerLength + data.length)
  exact : packet.octets.length = packet.totalLength

/-- How a transmission ends, given why the link refuses it, if it does. -/
def LinkFailure.result : Option LinkFailure → Except RouterError Unit
  | none => .ok ()
  | some failure => .error (.link failure)

namespace Router

/-- The frame of an outbound datagram holds a packet that the router has written itself.  The
datagram goes along the route of its destination, and its completed frame, which is handed over
at once or as soon as an answer of the next hop releases the datagram from the queue, carries
the same octets. -/
structure Issues (router : Router) (outbound : Outbound) (packet : Ipv4Packet) : Prop where
  own : outbound.frame.origin = .originated
  readable : Ipv4Packet.ofFrame outbound.frame.octets = .ok packet
  routed : ∃ route, router.routes.lookup packet.destination = some route ∧
    router.interfaces.byName? route.interface = some outbound.egress ∧
    outbound.nextHop = route.nextHop packet.destination
  completed : ∀ mac, (outbound.complete mac).length ≤ EthernetFrame.maximumLength ∧
    (EthernetFrame.mk (outbound.complete mac)).payload = packet.octets
  released : ∀ (environment : Environment) (state : RouterState) (event : RouterEvent)
    (answer : ArpPacket), outbound.frame ∈ state.pending.framesFor outbound.nextHop →
      router.heard? event = some answer → answer.sourceAddress = outbound.nextHop →
        ∃ refusal, .handed ⟨outbound.egress.name, outbound.complete answer.sourceMac⟩ refusal
          (some outbound) ∈ (router.step environment state event).1.journal

/-- How an event ends in which a router accepts one datagram and does nothing else. -/
inductive Outputs (router : Router) (environment : Environment) (state : RouterState)
    (outbound : Outbound) : Turn × Except RouterError Unit → Prop
  /-- The next hop is known, so the datagram is handed to the link. -/
  | atOnce {mac : MacAddress} {refusal : Option LinkFailure}
      (known : router.hardwareAddress? state outbound.nextHop = some mac)
      (link : environment.link 1 ⟨outbound.egress.name, outbound.complete mac⟩ = refusal) :
      Outputs router environment state outbound
        (⟨state, [.accepted outbound,
          .handed ⟨outbound.egress.name, outbound.complete mac⟩ refusal (some outbound)]⟩,
          LinkFailure.result refusal)
  /-- The datagram joins others that wait for its next hop. -/
  | joins {request : PendingRequest}
      (unknown : router.hardwareAddress? state outbound.nextHop = none)
      (found : state.pending.find? outbound.nextHop = some request) :
      Outputs router environment state outbound
        (⟨state.await outbound, [.accepted outbound]⟩, .ok ())
  /-- The datagram is the first to wait for its next hop, for which the link is handed an ARP
  request. -/
  | asks {refusal : Option LinkFailure}
      (unknown : router.hardwareAddress? state outbound.nextHop = none)
      (notFound : state.pending.find? outbound.nextHop = none)
      (link : environment.link 1 (outbound.egress.arpRequestFor outbound.nextHop) = refusal) :
      Outputs router environment state outbound
        (⟨state.await outbound, [.accepted outbound,
          .handed (outbound.egress.arpRequestFor outbound.nextHop) refusal none]⟩,
          LinkFailure.result refusal)

variable {router : Router} {environment : Environment} {turn between last : Turn}
  {outbound : Outbound} {state : RouterState}

/-- A turn has gone on for a while in which the known addresses have stayed. -/
structure GoesOn (turn last : Turn) : Prop where
  journal : turn.journal <+: last.journal
  neighbors : last.state.neighbors = turn.state.neighbors
  now : last.state.now = turn.state.now

theorem GoesOn.refl (turn : Turn) : GoesOn turn turn :=
  ⟨List.prefix_refl _, rfl, rfl⟩

theorem GoesOn.trans (first : GoesOn turn between) (second : GoesOn between last) :
    GoesOn turn last :=
  ⟨first.journal.trans second.journal, second.neighbors.trans first.neighbors,
    second.now.trans first.now⟩

theorem GoesOn.hardwareAddress?_eq (goesOn : GoesOn turn last) (address : Ipv4Address) :
    router.hardwareAddress? last.state address = router.hardwareAddress? turn.state address := by
  rw [hardwareAddress?, goesOn.neighbors, goesOn.now, hardwareAddress?]

theorem goesOn_record (turn : Turn) (entry : JournalEntry) : GoesOn turn (turn.record entry) :=
  ⟨List.prefix_append _ _, rfl, rfl⟩

theorem goesOn_solicit (environment : Environment) (turn : Turn) (solicitation : Solicitation) :
    GoesOn turn (router.solicit environment turn solicitation).1 := by
  cases found : router.interfaces.byName? solicitation.interface with
  | none =>
      simp only [solicit, found]
      exact .refl turn
  | some interface =>
      rw [solicit_eq found]
      exact goesOn_record turn _

theorem goesOn_output (environment : Environment) (turn : Turn) (outbound : Outbound) :
    GoesOn turn (router.output environment turn outbound).1 := by
  cases known : router.hardwareAddress? turn.state outbound.nextHop with
  | some mac =>
      rw [output_of_known known]
      exact goesOn_record turn _
  | none =>
      rw [hardwareAddress?] at known
      have waits : GoesOn turn { turn with state := turn.state.await outbound } :=
        ⟨List.prefix_refl _, rfl, rfl⟩
      simp only [output, known]
      split
      · exact waits
      · exact waits.trans (goesOn_solicit environment _ _)

theorem goesOn_release (environment : Environment) (turn : Turn) (frame : DatagramFrame) :
    GoesOn turn (router.release environment turn frame) := by
  rw [release, submitAs]
  split
  · exact .refl turn
  · exact (goesOn_record turn _).trans (goesOn_output environment _ _)

theorem goesOn_foldl_release (environment : Environment) (frames : List DatagramFrame)
    (turn : Turn) : GoesOn turn (frames.foldl (router.release environment) turn) := by
  induction frames generalizing turn with
  | nil => exact .refl turn
  | cons frame rest ih => exact (goesOn_release environment turn frame).trans (ih _)

/-- A deliverable frame is handed over when it is released, whatever is released besides. -/
theorem handed_of_mem (delivers : router.Delivers outbound) {mac : MacAddress}
    {frames : List DatagramFrame} (member : outbound.frame ∈ frames)
    (known : router.hardwareAddress? turn.state outbound.nextHop = some mac) :
    ∃ refusal, .handed ⟨outbound.egress.name, outbound.complete mac⟩ refusal
      (some outbound) ∈ (frames.foldl (router.release environment) turn).journal := by
  obtain ⟨before, after, rfl⟩ := List.append_of_mem member
  let reached := before.foldl (router.release environment) turn
  have stillKnown : router.hardwareAddress? reached.state outbound.nextHop = some mac :=
    ((goesOn_foldl_release environment before turn).hardwareAddress?_eq _).trans known
  have released := release_eq environment delivers stillKnown
  have goesOn : GoesOn (router.release environment reached outbound.frame)
      (after.foldl (router.release environment)
        (router.release environment reached outbound.frame)) :=
    goesOn_foldl_release environment after _
  refine ⟨environment.link (reached.record (.resumed outbound.frame outbound)).journal.length
    ⟨outbound.egress.name, outbound.complete mac⟩, ?_⟩
  rw [List.foldl_append, List.foldl_cons]
  apply goesOn.journal.subset
  rw [released]
  exact List.mem_append_right _ (List.mem_singleton.mpr rfl)

/-- An answer of the next hop releases a deliverable datagram from the queue. -/
theorem Delivers.released (delivers : router.Delivers outbound) (environment : Environment)
    {event : RouterEvent} {answer : ArpPacket}
    (waits : outbound.frame ∈ state.pending.framesFor outbound.nextHop)
    (heard : router.heard? event = some answer)
    (fromNextHop : answer.sourceAddress = outbound.nextHop) :
    ∃ refusal, .handed ⟨outbound.egress.name, outbound.complete answer.sourceMac⟩ refusal
      (some outbound) ∈ (router.step environment state event).1.journal := by
  rw [step_of_heard heard, learn_eq, fromNextHop]
  exact handed_of_mem delivers waits (NeighborCache.lookup_insert_self _ _ _ _ _)

theorem outputs_submit (delivers : router.Delivers outbound)
    {decide : UInt16 → Except RouterError Outbound}
    (decided : decide (environment.identification 0) = .ok outbound) :
    router.Outputs environment state outbound
      (router.submit environment (Turn.start state) decide) := by
  let accepting := (Turn.start state).record (.accepted outbound)
  have submitted : router.submit environment (Turn.start state) decide =
      router.output environment accepting outbound :=
    submit_of_ok decided
  rw [submitted]
  cases known : router.hardwareAddress? accepting.state outbound.nextHop with
  | some mac =>
      rw [output_of_known known]
      exact .atOnce known rfl
  | none =>
      cases found : accepting.state.pending.find? outbound.nextHop with
      | some request =>
          rw [output_of_joined known found]
          exact .joins known found
      | none =>
          rw [output_of_opened delivers known found]
          exact .asks known found rfl

section Outputs

variable {outcome : Turn × Except RouterError Unit}

theorem Outputs.eq_of_known (outputs : router.Outputs environment state outbound outcome)
    {mac : MacAddress} (known : router.hardwareAddress? state outbound.nextHop = some mac) :
    let refusal := environment.link 1 ⟨outbound.egress.name, outbound.complete mac⟩
    outcome = (⟨state, [.accepted outbound,
      .handed ⟨outbound.egress.name, outbound.complete mac⟩ refusal (some outbound)]⟩,
      LinkFailure.result refusal) := by
  cases outputs with
  | atOnce heard link =>
      rw [known] at heard
      cases heard
      rw [link]
  | joins unknown =>
      rw [known] at unknown
      cases unknown
  | asks unknown =>
      rw [known] at unknown
      cases unknown

theorem Outputs.framesFor_eq (outputs : router.Outputs environment state outbound outcome)
    (unknown : router.hardwareAddress? state outbound.nextHop = none) :
    outcome.1.state.pending.framesFor outbound.nextHop =
      state.pending.framesFor outbound.nextHop ++ [outbound.frame] := by
  have joins := framesFor_await state outbound outbound.nextHop
  rw [if_pos rfl] at joins
  cases outputs with
  | atOnce known =>
      rw [unknown] at known
      cases known
  | joins => exact joins
  | asks => exact joins

end Outputs

variable {source destination : Ipv4Address} {message : IcmpMessage} {data : Octets}

/-- A message that is conveyed is all that the packet consists of. -/
theorem Conveys.issues (conveys : router.Conveys outbound source destination message data)
    (delivers : router.Delivers outbound) :
    ∃ packet, router.Issues outbound packet ∧
      packet.Bears source destination router.settings.icmpTimeToLive message data := by
  obtain ⟨packet, holds, alive, readable, -⟩ := conveys.readable
  obtain ⟨_, _, admits, -, -⟩ := id delivers
  obtain ⟨header, written, other, octets, protocol, -, whole, short⟩ :=
    admits.composed conveys.own
  obtain ⟨long, fits, read⟩ := Ipv4Packet.ofFrame_eq_ok_iff.mp readable
  have payload : (EthernetFrame.mk outbound.frame.octets).payload =
      header.attach (IcmpPacket.ofMessage written other).octets := by
    rw [octets, EthernetFrame.payload_assemble]
  have isPacket : packet = ⟨header.attach (IcmpPacket.ofMessage written other).octets⟩ := by
    obtain ⟨-, -, -, -, -, isPacket⟩ := Ipv4Packet.ofOctets_eq_ok_iff.mp read
    rw [isPacket, ← payload]
    rfl
  have sameData : data = other := by
    rw [isPacket] at holds
    exact holds.data_eq (Ipv4Header.holds_attach written protocol whole short)
  have total : packet.totalLength =
      Ipv4Packet.minimumHeaderLength + (IcmpPacket.headerLength + data.length) := by
    rw [isPacket, Ipv4Header.totalLength_attach _ short, Ipv4Header.packetLength, whole, sameData]
  refine ⟨packet, ?_, ?_⟩
  · exact {
      own := conveys.own
      readable
      routed := by
        rw [holds.sentTo]
        exact conveys.routed
      completed := by
        intro mac
        obtain ⟨-, notLonger⟩ := outbound.length_complete mac readable
        refine ⟨Nat.le_trans notLonger fits, ?_⟩
        rw [Outbound.payload_complete_of_originated mac conveys.own long, payload, isPacket]
      released := fun environment _ _ _ waits heard fromNextHop =>
        delivers.released environment waits heard fromNextHop }
  · exact {
      holds, alive, total
      plain := by rw [isPacket, Ipv4Header.headerLength_attach]
      exact := by
        rw [total, isPacket, Ipv4Header.length_attach, IcmpPacket.length_ofMessage, sameData] }

/-- An event in which a router does nothing but write an ICMP message that fits a frame.  Unless
no route leads to the destination, one datagram is output, which bears the message. -/
theorem outputs_or_unrouted (connected : router.Connected)
    (fits : data.length ≤ maximumDataLength) {decide : UInt16 → Except RouterError Outbound}
    (decision : ∀ identification, decide identification =
      router.originateMessage identification source destination message data)
    (environment : Environment) (state : RouterState) :
    (router.routes.lookup destination = none ∧
      router.submit environment (Turn.start state) decide =
        (Turn.start state, .error (.noRoute destination))) ∨
    ∃ outbound packet, router.Issues outbound packet ∧
      packet.Bears source destination router.settings.icmpTimeToLive message data ∧
      router.Outputs environment state outbound
        (router.submit environment (Turn.start state) decide) := by
  rcases originateMessage_of_fits connected fits with
    ⟨unrouted, refused⟩ | ⟨outbound, conveys, decided⟩
  · exact Or.inl ⟨unrouted, submit_of_error ((decision _).trans refused)⟩
  · have delivers := delivers_of_originateMessage decided
    obtain ⟨packet, issues, bears⟩ := conveys.issues delivers
    exact Or.inr ⟨outbound, packet, issues, bears,
      outputs_submit delivers ((decision _).trans decided)⟩

/-- A frame passes the filter of the interface on which it arrives and carries an intact
packet. -/
structure Presents (router : Router) (name : String) (octets : Octets) (arrival : Interface)
    (packet : Ipv4Packet) : Prop where
  found : router.interfaces.byName? name = some arrival
  addressed : (EthernetFrame.mk octets).destination = arrival.mac ∨
    (EthernetFrame.mk octets).destination = MacAddress.broadcast
  labelled : (EthernetFrame.mk octets).payloadType = EthernetFrame.ipv4Type
  readable : Ipv4Packet.ofFrame octets = .ok packet
  intact : packet.verifyChecksum = .ok ()

section Presents

variable {name : String} {octets : Octets} {arrival : Interface} {packet : Ipv4Packet}

theorem Presents.step_eq (presents : router.Presents name octets arrival packet)
    (environment : Environment) (state : RouterState) :
    router.step environment state (.arrival name octets) =
      router.submit environment (Turn.start state)
        (fun identification => router.dispatch identification arrival octets) := by
  have notArp : EthernetFrame.ipv4Type ≠ EthernetFrame.arpType := by decide
  obtain ⟨long, short, -⟩ := Ipv4Packet.ofFrame_eq_ok_iff.mp presents.readable
  have admissible : router.Admissible name octets := by
    refine ⟨long, short, ?_⟩
    intro other found
    rw [presents.found] at found
    cases found
    exact presents.addressed
  simp only [step, receive_of_admissible presents.found admissible, presents.labelled,
    if_neg notArp, if_true, receiveDatagram]

/-- Such a frame is responded to with an ICMP message that fits another frame, unless no route
leads to where the message is to go. -/
theorem Presents.outputs_or_unrouted (presents : router.Presents name octets arrival packet)
    (connected : router.Connected) (fits : data.length ≤ maximumDataLength)
    (decision : ∀ identification, router.dispatch identification arrival octets =
      router.originateMessage identification source destination message data)
    (environment : Environment) (state : RouterState) :
    (router.routes.lookup destination = none ∧
      router.step environment state (.arrival name octets) =
        (Turn.start state, .error (.noRoute destination))) ∨
    ∃ outbound response, router.Issues outbound response ∧
      response.Bears source destination router.settings.icmpTimeToLive message data ∧
      router.Outputs environment state outbound
        (router.step environment state (.arrival name octets)) := by
  rw [presents.step_eq]
  exact Router.outputs_or_unrouted connected fits decision environment state

theorem Presents.dispatch_of_owned (presents : router.Presents name octets arrival packet)
    (owned : router.owns packet.destination) (identification : UInt16) :
    router.dispatch identification arrival octets =
      router.answer identification arrival packet := by
  simp only [dispatch, presents.readable, presents.intact, owned, if_true]

end Presents

end Router

end Ipv4Router
