import Ipv4Router.RouterRun
import Ipv4Router.Proofs.DeliverableFrames
import Ipv4Router.Proofs.PendingQueues
import Mathlib.Logic.Relation

/-!
# The actions of a turn

Whatever a router does within a turn is one of a few actions.  It accepts a
datagram, resumes or abandons a frame that it has taken out of a queue, or sends
an ARP packet.  A stage of a turn is the turn so far together with the frames
that are out of their queues but not dealt with yet, in the order in which they
will be.

An event first changes what the router remembers, without handing anything to
the link; this opens its turn.  All that follows are actions.  This file defines
openings and actions, and describes each part of the router by what it does to
a turn.
-/

namespace Ipv4Router

/-- A datagram joins the queue of its next hop. -/
def RouterState.await (state : RouterState) (outbound : Outbound) : RouterState :=
  { state with
    pending := (state.pending.enqueue state.now outbound.nextHop outbound.frame
      outbound.egress.name).2 }

/-- A hardware address becomes known, and nothing waits for it any more. -/
def RouterState.learn (state : RouterState) (address : Ipv4Address) (mac : MacAddress) :
    RouterState :=
  { state with
    neighbors := state.neighbors.insert state.now address mac
    pending := (state.pending.resolve address).2 }

/-- The ARP packet that a frame holds. -/
def EthernetFrame.arpPacket? (frame : EthernetFrame) : Option ArpPacket :=
  if frame.payloadType = arpType then (ArpPacket.ofOctets frame.payload).toOption else none

theorem EthernetFrame.arpPacket?_eq_some_iff {frame : EthernetFrame} {packet : ArpPacket} :
    frame.arpPacket? = some packet ↔
      frame.payloadType = arpType ∧ ArpPacket.ofOctets frame.payload = .ok packet := by
  unfold arpPacket?
  cases ArpPacket.ofOctets frame.payload <;> simp [Except.toOption]

namespace Router

/-- What a router remembers after it has removed outdated neighbours and polled
its pending requests. -/
def refresh (router : Router) (state : RouterState) : RouterState :=
  { state with
    neighbors := (state.neighbors.expire router.settings.cacheLifetime state.now).2
    pending := (state.pending.poll router.schedule state.now).remaining }

/-- The hardware address by which a router reaches an address at present. -/
def hardwareAddress? (router : Router) (state : RouterState) (address : Ipv4Address) :
    Option MacAddress :=
  state.neighbors.lookup router.settings.cacheLifetime state.now address

/-- A frame has the length of a frame and is addressed to the interface of a name or to
all. -/
def Admissible (router : Router) (name : String) (octets : Octets) : Prop :=
  EthernetFrame.headerLength ≤ octets.length ∧
    octets.length ≤ EthernetFrame.maximumLength ∧
    ∀ arrival, router.interfaces.byName? name = some arrival →
      (EthernetFrame.mk octets).destination = arrival.mac ∨
        (EthernetFrame.mk octets).destination = MacAddress.broadcast

/-- The ARP reply of which a router takes notice in an event. -/
def heard? (router : Router) : RouterEvent → Option ArpPacket
  | .arrival name octets =>
      match router.interfaces.byName? name, EthernetFrame.ofOctets octets with
      | some arrival, .ok frame =>
          if (frame.destination = arrival.mac ∨ frame.destination = MacAddress.broadcast) ∧
              frame.payloadType = EthernetFrame.arpType then
            match ArpPacket.ofOctets frame.payload with
            | .ok packet => if packet.operation = .reply then some packet else none
            | .error _ => none
          else none
      | _, _ => none
  | .advance _ => none
  | .sweep => none

end Router

/-- A frame that is out of the queue in which it waited, with the target of the
queue. -/
structure FrameInHand where
  target : Ipv4Address
  frame : DatagramFrame

/-- The frames of a request, once they are out of its queue. -/
def PendingRequest.inHand (request : PendingRequest) : List FrameInHand :=
  request.frames.map (FrameInHand.mk request.target)

/-- A turn so far, and the frames that are still to be dealt with in it. -/
structure Stage where
  inHand : List FrameInHand
  turn : Turn

/-- The ARP request for a target as it is handed to the link. -/
def Interface.arpRequestFor (interface : Interface) (target : Ipv4Address) : Transmission :=
  ⟨interface.name, EthernetFrame.assemble MacAddress.broadcast interface.mac
    EthernetFrame.arpType (Router.arpRequest interface target).toOctets⟩

/-- The reply to an ARP request as it is handed to the link. -/
def Interface.arpReplyTo (interface : Interface) (request : ArpPacket) : Transmission :=
  ⟨interface.name, EthernetFrame.assemble request.sourceMac interface.mac
    EthernetFrame.arpType (Router.arpReply interface request).toOctets⟩

namespace Router

/-- The actions of a router, from one stage of a turn to the next. -/
inductive Action (router : Router) (environment : Environment) : Stage → Stage → Prop
  /-- A new datagram is output.  It does not overtake a frame in hand. -/
  | accept {inHand : List FrameInHand} {turn : Turn} {outbound : Outbound}
      (delivers : router.Delivers outbound)
      (behind : router.hardwareAddress? turn.state outbound.nextHop ≠ none →
        ∀ held ∈ inHand, held.target ≠ outbound.nextHop) :
      Action router environment ⟨inHand, turn⟩
        ⟨inHand, (router.output environment (turn.record (.accepted outbound)) outbound).1⟩
  /-- The first frame in hand is output, now that its next hop is known. -/
  | resume {rest : List FrameInHand} {turn : Turn} {outbound : Outbound} {mac : MacAddress}
      (delivers : router.Delivers outbound)
      (known : router.hardwareAddress? turn.state outbound.nextHop = some mac) :
      Action router environment ⟨⟨outbound.nextHop, outbound.frame⟩ :: rest, turn⟩
        ⟨rest, (router.output environment
          (turn.record (.resumed outbound.frame outbound)) outbound).1⟩
  /-- The first frame in hand is given up. -/
  | abandon {rest : List FrameInHand} {turn : Turn} {target : Ipv4Address}
      {frame : DatagramFrame} :
      Action router environment ⟨⟨target, frame⟩ :: rest, turn⟩
        ⟨rest, turn.record (.abandoned target frame)⟩
  /-- An ARP request is sent again. -/
  | ask {inHand : List FrameInHand} {turn : Turn} {interface : Interface}
      {target : Ipv4Address}
      (known : router.interfaces.byName? interface.name = some interface) :
      Action router environment ⟨inHand, turn⟩
        ⟨inHand, (turn.transmit environment (interface.arpRequestFor target) none).1⟩
  /-- An ARP request for an address of the router is answered. -/
  | reply {inHand : List FrameInHand} {turn : Turn} {arrival : Interface}
      {request : ArpPacket}
      (known : router.interfaces.byName? arrival.name = some arrival)
      (owned : router.owns request.targetAddress) :
      Action router environment ⟨inHand, turn⟩
        ⟨inHand, (turn.transmit environment (arrival.arpReplyTo request) none).1⟩

/-- Any number of actions, one after the other. -/
abbrev Course (router : Router) (environment : Environment) : Stage → Stage → Prop :=
  Relation.ReflTransGen (router.Action environment)

/-- The stage at which the turn of an event opens. -/
def opening (router : Router) (state : RouterState) (event : RouterEvent) : Stage :=
  match event with
  | .advance duration => ⟨[], Turn.start (state.advance duration)⟩
  | .sweep =>
      ⟨(state.pending.poll router.schedule state.now).failed.flatMap PendingRequest.inHand,
        Turn.start (router.refresh state)⟩
  | .arrival name octets =>
      match router.heard? (.arrival name octets) with
      | some packet =>
          ⟨(state.pending.framesFor packet.sourceAddress).map
              (FrameInHand.mk packet.sourceAddress),
            Turn.start (state.learn packet.sourceAddress packet.sourceMac)⟩
      | none => ⟨[], Turn.start state⟩

end Router

namespace Turn

variable (environment : Environment) (turn : Turn)

/-- An ARP packet always fits a frame, so it reaches the link. -/
theorem sendArp_eq (interface : Interface) (destination : MacAddress) (packet : ArpPacket) :
    turn.sendArp environment interface destination packet =
      turn.transmit environment ⟨interface.name, EthernetFrame.assemble destination
        interface.mac EthernetFrame.arpType packet.toOctets⟩ none := by
  have fits : EthernetFrame.ofOctets (EthernetFrame.assemble destination interface.mac
      EthernetFrame.arpType packet.toOctets) = .ok ⟨EthernetFrame.assemble destination
        interface.mac EthernetFrame.arpType packet.toOctets⟩ := by
    rw [EthernetFrame.ofOctets_eq_ok_iff, EthernetFrame.length_assemble,
      ArpPacket.length_toOctets]
    exact ⟨by decide, by decide, rfl⟩
  simp only [sendArp, sendPayload, fits]

end Turn

namespace Router

variable {router : Router} {environment : Environment} {turn : Turn}

theorem solicit_eq {interface : Interface} {solicitation : Solicitation}
    (known : router.interfaces.byName? solicitation.interface = some interface) :
    router.solicit environment turn solicitation =
      turn.transmit environment (interface.arpRequestFor solicitation.target) none := by
  simp only [solicit, known, Turn.sendArp_eq]
  rfl

section Output

variable {outbound : Outbound}

theorem output_of_known {mac : MacAddress}
    (known : router.hardwareAddress? turn.state outbound.nextHop = some mac) :
    router.output environment turn outbound =
      turn.transmit environment ⟨outbound.egress.name, outbound.complete mac⟩
        (some outbound) := by
  rw [hardwareAddress?] at known
  simp only [output, known]

section Submit

variable {decide : UInt16 → Except RouterError Outbound}

theorem submit_of_error {error : RouterError}
    (refused : decide (environment.identification turn.journal.length) = .error error) :
    router.submit environment turn decide = (turn, .error error) := by
  simp only [submit, submitAs, refused]

theorem submit_of_ok
    (decided : decide (environment.identification turn.journal.length) = .ok outbound) :
    router.submit environment turn decide =
      router.output environment (turn.record (.accepted outbound)) outbound := by
  simp only [submit, submitAs, decided]

theorem submit_of_known {mac : MacAddress}
    (decided : decide (environment.identification turn.journal.length) = .ok outbound)
    (known : router.hardwareAddress? turn.state outbound.nextHop = some mac) :
    router.submit environment turn decide =
      (turn.record (.accepted outbound)).transmit environment
        ⟨outbound.egress.name, outbound.complete mac⟩ (some outbound) := by
  have stillKnown : router.hardwareAddress? (turn.record (.accepted outbound)).state
      outbound.nextHop = some mac :=
    known
  rw [submit_of_ok decided, output_of_known stillKnown]

end Submit

theorem output_of_joined {request : PendingRequest}
    (unknown : router.hardwareAddress? turn.state outbound.nextHop = none)
    (found : turn.state.pending.find? outbound.nextHop = some request) :
    router.output environment turn outbound =
      ({ turn with state := turn.state.await outbound }, .ok ()) := by
  rw [hardwareAddress?] at unknown
  obtain ⟨before, after, -, extended⟩ := PendingRequests.enqueue_of_find?_eq_some
    turn.state.now outbound.frame outbound.egress.name found
  simp only [output, unknown, extended, RouterState.await]

theorem output_of_opened (delivers : router.Delivers outbound)
    (unknown : router.hardwareAddress? turn.state outbound.nextHop = none)
    (notFound : turn.state.pending.find? outbound.nextHop = none) :
    router.output environment turn outbound =
      Turn.transmit environment { turn with state := turn.state.await outbound }
        (outbound.egress.arpRequestFor outbound.nextHop) none := by
  rw [hardwareAddress?] at unknown
  simp only [output, unknown, RouterState.await,
    PendingRequests.enqueue_of_find?_eq_none notFound]
  exact solicit_eq delivers.byName?_egress

/-- Output either leaves alone what is remembered or makes the datagram wait. -/
theorem state_output (delivers : router.Delivers outbound) :
    (router.output environment turn outbound).1.state =
      if (router.hardwareAddress? turn.state outbound.nextHop).isSome then turn.state
      else turn.state.await outbound := by
  cases known : router.hardwareAddress? turn.state outbound.nextHop with
  | some mac =>
      rw [output_of_known known]
      rfl
  | none =>
      cases found : turn.state.pending.find? outbound.nextHop with
      | some request =>
          rw [output_of_joined known found]
          rfl
      | none =>
          rw [output_of_opened delivers known found]
          rfl

/-- A datagram whose next hop is not known waits.  Nothing but an ARP request may
be handed over on its behalf. -/
theorem output_of_unknown (environment : Environment) (delivers : router.Delivers outbound)
    (unknown : router.hardwareAddress? turn.state outbound.nextHop = none) :
    ∃ asked, (router.output environment turn outbound).1 =
        ⟨turn.state.await outbound, turn.journal ++ asked⟩ ∧
      ∀ entry ∈ asked, ∃ refusal,
        entry = .handed (outbound.egress.arpRequestFor outbound.nextHop) refusal none := by
  cases found : turn.state.pending.find? outbound.nextHop with
  | some request =>
      rw [output_of_joined unknown found]
      exact ⟨[], by simp, by simp⟩
  | none =>
      rw [output_of_opened delivers unknown found]
      exact ⟨[_], rfl, by simp⟩

end Output

theorem learn_eq {address : Ipv4Address} {mac : MacAddress} :
    router.learn environment turn address mac =
      (turn.state.pending.framesFor address).foldl (router.release environment)
        { turn with state := turn.state.learn address mac } := by
  simp only [learn, PendingRequests.resolve, PendingRequests.framesFor, RouterState.learn]
  cases turn.state.pending.find? address <;> rfl

theorem sweep_eq :
    router.sweep environment turn =
      ((turn.state.pending.poll router.schedule turn.state.now).failed.flatMap
        PendingRequest.inHand).foldl
          (fun current held => router.abandon environment held.target current held.frame)
        ((turn.state.pending.poll router.schedule turn.state.now).retransmit.foldl
          (router.retransmit environment)
          { turn with state := router.refresh turn.state }) := by
  rw [List.foldl_flatMap]
  simp only [PendingRequest.inHand, List.foldl_map]
  rfl

theorem receive_of_admissible {name : String} {octets : Octets} {arrival : Interface}
    (found : router.interfaces.byName? name = some arrival)
    (admissible : router.Admissible name octets) :
    router.receive environment turn name octets =
      if (EthernetFrame.mk octets).payloadType = EthernetFrame.arpType then
        router.receiveArp environment turn arrival (EthernetFrame.mk octets).payload
      else if (EthernetFrame.mk octets).payloadType = EthernetFrame.ipv4Type then
        router.receiveDatagram environment turn arrival octets
      else
        (turn, .error .ignored) := by
  obtain ⟨long, short, addressed⟩ := admissible
  have accepted : EthernetFrame.ofOctets octets = .ok ⟨octets⟩ :=
    EthernetFrame.ofOctets_eq_ok_iff.mpr ⟨long, short, rfl⟩
  have notForeign : ¬ ((EthernetFrame.mk octets).destination ≠ arrival.mac ∧
      (EthernetFrame.mk octets).destination ≠ MacAddress.broadcast) :=
    fun foreign => (addressed arrival found).elim foreign.1 foreign.2
  simp only [receive, found, accepted, if_neg notForeign]

/-- What becomes of a frame that arrives: the router hears an ARP reply, refuses
the frame, answers an ARP request or receives a datagram. -/
theorem receive_cases (router : Router) (environment : Environment) (turn : Turn)
    (name : String) (octets : Octets) :
    (∃ packet, router.heard? (.arrival name octets) = some packet ∧
      router.receive environment turn name octets =
        (router.learn environment turn packet.sourceAddress packet.sourceMac, .ok ())) ∨
    (router.heard? (.arrival name octets) = none ∧
      ((∃ error, (error = .ignored ∨ ∃ fault, error = .packet fault) ∧
        router.receive environment turn name octets = (turn, .error error)) ∨
      (∃ arrival request, router.interfaces.byName? name = some arrival ∧
        router.owns request.targetAddress ∧
        router.receive environment turn name octets =
          turn.transmit environment (arrival.arpReplyTo request) none) ∨
      (∃ arrival, router.interfaces.byName? name = some arrival ∧
        (EthernetFrame.mk octets).payloadType = EthernetFrame.ipv4Type ∧
        router.receive environment turn name octets =
          router.receiveDatagram environment turn arrival octets))) := by
  simp only [heard?, receive]
  cases found : router.interfaces.byName? name with
  | none => exact Or.inr ⟨rfl, Or.inl ⟨_, Or.inl rfl, rfl⟩⟩
  | some arrival =>
  cases accepted : EthernetFrame.ofOctets octets with
  | error fault => exact Or.inr ⟨rfl, Or.inl ⟨_, Or.inr ⟨fault, rfl⟩, rfl⟩⟩
  | ok frame =>
  obtain ⟨-, -, rfl⟩ := EthernetFrame.ofOctets_eq_ok_iff.mp accepted
  by_cases addressed :
      (EthernetFrame.mk octets).destination = arrival.mac ∨
        (EthernetFrame.mk octets).destination = MacAddress.broadcast
  case neg =>
    have foreign : (EthernetFrame.mk octets).destination ≠ arrival.mac ∧
        (EthernetFrame.mk octets).destination ≠ MacAddress.broadcast :=
      not_or.mp addressed
    simp only [if_pos foreign, addressed, false_and, if_false]
    exact Or.inr ⟨trivial, Or.inl ⟨_, Or.inl rfl, rfl⟩⟩
  case pos =>
    have notForeign :
        ¬ ((EthernetFrame.mk octets).destination ≠ arrival.mac ∧
          (EthernetFrame.mk octets).destination ≠ MacAddress.broadcast) :=
      fun foreign => not_or.mpr foreign addressed
    simp only [if_neg notForeign, addressed, true_and]
    by_cases arp : (EthernetFrame.mk octets).payloadType = EthernetFrame.arpType
    case neg =>
      simp only [if_neg arp]
      by_cases ipv4 : (EthernetFrame.mk octets).payloadType = EthernetFrame.ipv4Type
      · simp only [if_pos ipv4]
        exact Or.inr ⟨trivial, Or.inr (Or.inr ⟨arrival, rfl, ipv4, rfl⟩)⟩
      · simp only [if_neg ipv4]
        exact Or.inr ⟨trivial, Or.inl ⟨_, Or.inl rfl, rfl⟩⟩
    case pos =>
      simp only [if_pos arp, receiveArp]
      cases ArpPacket.ofOctets (EthernetFrame.mk octets).payload with
      | error fault => exact Or.inr ⟨rfl, Or.inl ⟨_, Or.inr ⟨fault, rfl⟩, rfl⟩⟩
      | ok packet =>
      cases operation : packet.operation with
      | reply => exact Or.inl ⟨packet, by simp [operation], by simp [operation]⟩
      | request =>
          refine Or.inr ⟨by simp [operation], ?_⟩
          by_cases owned : router.owns packet.targetAddress
          · simp only [operation, if_pos owned, Turn.sendArp_eq]
            exact Or.inr (Or.inl ⟨arrival, packet, rfl, owned, rfl⟩)
          · simp only [operation, if_neg owned]
            exact Or.inl ⟨_, Or.inl rfl, rfl⟩

end Router

end Ipv4Router
