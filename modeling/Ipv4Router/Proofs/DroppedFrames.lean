import Ipv4Router.Proofs.LinkIndifference
import Ipv4Router.Proofs.LongestPrefix
import Ipv4Router.Proofs.WireFrames

/-!
# Dropped frames

A router that drops a frame does so before it changes anything it remembers and
before it hands anything to the link.  The reason is one of a few: the frame or a
packet in it is at fault, it does not concern the router, or there is no way back
to the source of the datagram.

The one error that comes later is a failure of the link.  By then a single frame
has been handed over.  If that frame is an ARP request, the datagram already waits
for the answer.
-/

namespace Ipv4Router

/-- The link has refused the only frame that was handed over in a turn. -/
def Turn.RefusedOnly (turn : Turn) (transmission : Transmission) (failure : LinkFailure) :
    Prop :=
  turn.handedOver = [transmission] ∧
    ∃ datagram, .handed transmission (some failure) datagram ∈ turn.journal

namespace Router

variable {router : Router} {environment : Environment}

theorem connected_of_build {interfaces : List Interface} {routes : RoutingTable}
    {settings : Settings} (built : build interfaces routes settings = .ok router) :
    router.Connected := by
  unfold build at built
  split at built
  · cases built
  split at built
  · cases built
  next noneStranded =>
  cases built
  intro route member
  have notStranded := List.find?_eq_none.mp noneStranded route member
  exact Option.ne_none_iff_exists'.mp (by simpa using notStranded)

/-- The error is a fault of a packet, or there is no way to an address. -/
def FaultOrNoRoute (router : Router) (destination : Ipv4Address) (error : RouterError) :
    Prop :=
  (∃ fault, error = .packet fault) ∨
    error = .noRoute destination ∧ router.routes.lookup destination = none

variable {identification : UInt16} {error : RouterError}

theorem not_error_of_sendAlong (connected : router.Connected) {route : Route}
    {address destination : Ipv4Address} {frame : DatagramFrame}
    (routed : router.routes.lookup address = some route) :
    router.sendAlong route destination frame ≠ .error error := by
  obtain ⟨egress, known⟩ := connected route (RoutingTable.mem_of_lookup routed)
  intro refused
  simp only [sendAlong, known] at refused
  cases refused

theorem error_of_originateMessage (connected : router.Connected)
    {source destination : Ipv4Address} {message : IcmpMessage} {data : Octets}
    (refused : router.originateMessage identification source destination message data =
      .error error) :
    router.FaultOrNoRoute destination error := by
  unfold originateMessage at refused
  simp only at refused
  split at refused
  · cases refused
    exact Or.inl ⟨_, rfl⟩
  split at refused
  · cases refused
    exact Or.inl ⟨_, rfl⟩
  rw [originateDatagram, originateFrame] at refused
  split at refused
  · cases refused
    exact Or.inl ⟨_, rfl⟩
  next packet readable =>
  have towards : packet.destination = destination := by
    obtain ⟨-, -, read⟩ := Ipv4Packet.ofFrame_eq_ok_iff.mp readable
    obtain ⟨-, -, -, -, -, rfl⟩ := Ipv4Packet.ofOctets_eq_ok_iff.mp read
    exact Ipv4Header.destination_attach _ _
  rw [towards] at refused
  split at refused
  next unrouted =>
    cases refused
    exact Or.inr ⟨rfl, unrouted⟩
  next route routed => exact absurd refused (not_error_of_sendAlong connected routed)

theorem error_of_answer (connected : router.Connected) {arrival : Interface}
    {packet : Ipv4Packet}
    (refused : router.answer identification arrival packet = .error error) :
    router.FaultOrNoRoute packet.source error := by
  unfold answer at refused
  split at refused
  · exact error_of_originateMessage connected refused
  split at refused
  · cases refused
    exact Or.inl ⟨_, rfl⟩
  split at refused
  · cases refused
    exact Or.inl ⟨_, rfl⟩
  split at refused
  · exact error_of_originateMessage connected refused
  · exact error_of_originateMessage connected refused

/-- A datagram that arrived is dropped for a fault or because nothing can be sent back
to its source. -/
theorem error_of_dispatch (connected : router.Connected) {arrival : Interface}
    {octets : Octets} (refused : router.dispatch identification arrival octets = .error error) :
    (∃ fault, error = .packet fault) ∨
      ∃ packet, Ipv4Packet.ofFrame octets = .ok packet ∧ error = .noRoute packet.source ∧
        router.routes.lookup packet.source = none := by
  unfold dispatch at refused
  split at refused
  · cases refused
    exact Or.inl ⟨_, rfl⟩
  next packet readable =>
  split at refused
  · cases refused
    exact Or.inl ⟨_, rfl⟩
  have aboutSource : router.FaultOrNoRoute packet.source error := by
    split at refused
    · exact error_of_answer connected refused
    split at refused
    · exact error_of_originateMessage connected refused
    split at refused
    · exact error_of_originateMessage connected refused
    next route routed => exact absurd refused (not_error_of_sendAlong connected routed)
  rcases aboutSource with fault | ⟨noRoute, unrouted⟩
  · exact Or.inl fault
  · exact Or.inr ⟨packet, readable, noRoute, unrouted⟩

/-- A datagram that waits alone: the state is as before, but for a new request for the
next hop of the datagram, which was sent just now through its egress. -/
def WaitsAlone (router : Router) (state after : RouterState) (outbound : Outbound) : Prop :=
  (∃ packet route, Ipv4Packet.ofFrame outbound.frame.octets = .ok packet ∧
    router.routes.lookup packet.destination = some route ∧
    router.interfaces.byName? route.interface = some outbound.egress ∧
    outbound.nextHop = route.nextHop packet.destination) ∧
  state.pending.find? outbound.nextHop = none ∧
  after = { state with
    pending := state.pending ++
      [⟨outbound.nextHop, outbound.egress.name, [outbound.frame], 1, state.now⟩] }

theorem Delivers.waitsAlone {state : RouterState} {outbound : Outbound}
    (delivers : router.Delivers outbound)
    (notFound : state.pending.find? outbound.nextHop = none) :
    router.WaitsAlone state (state.await outbound) outbound := by
  obtain ⟨packet, route, admits, leaves, nextHop⟩ := delivers
  refine ⟨⟨packet, route, admits.readable, admits.routed, leaves, nextHop⟩, notFound, ?_⟩
  rw [RouterState.await, PendingRequests.enqueue_of_find?_eq_none notFound]

/-- The first frame that a turn hands over decides how the turn ends. -/
theorem refusedOnly_of_transmit {turn : Turn} (nothingYet : turn.handedOver = [])
    {transmission : Transmission} {datagram : Option Outbound}
    (failed : (turn.transmit environment transmission datagram).2 = .error error) :
    ∃ failure, error = .link failure ∧
      (turn.transmit environment transmission datagram).1.RefusedOnly transmission failure := by
  simp only [Turn.transmit] at failed ⊢
  split at failed
  · cases failed
  next failure refusal =>
  cases failed
  refine ⟨failure, rfl, ?_, datagram, ?_⟩
  · rw [Turn.handedOver_record, nothingYet]
    rfl
  · rw [refusal]
    exact List.mem_append_right _ List.mem_cons_self

/-- What a refusal leaves behind.  The frame holds a datagram or an ARP reply and nothing
has changed, or it asks for the next hop of a datagram that waits alone. -/
def RefusalLeaves (router : Router) (state after : RouterState) (transmission : Transmission)
    (decided : Outbound → Prop) : Prop :=
  (after = state ∧
    ((EthernetFrame.mk transmission.frame).payloadType = EthernetFrame.ipv4Type ∨
      ∃ (arrival : Interface) (request : ArpPacket),
        transmission = arrival.arpReplyTo request)) ∨
  ∃ outbound, decided outbound ∧
    transmission = outbound.egress.arpRequestFor outbound.nextHop ∧
    router.WaitsAlone state after outbound

theorem error_of_output {turn : Turn} {outbound : Outbound}
    (delivers : router.Delivers outbound) (nothingYet : turn.handedOver = [])
    (failed : (router.output environment turn outbound).2 = .error error) :
    ∃ failure transmission, error = .link failure ∧
      (router.output environment turn outbound).1.RefusedOnly transmission failure ∧
      router.RefusalLeaves turn.state (router.output environment turn outbound).1.state
        transmission (· = outbound) := by
  cases known : router.hardwareAddress? turn.state outbound.nextHop with
  | some mac =>
      rw [output_of_known known] at failed ⊢
      obtain ⟨failure, isLink, refused⟩ := refusedOnly_of_transmit nothingYet failed
      obtain ⟨packet, carries, -⟩ := delivers.carriesDatagram mac
      exact ⟨failure, _, isLink, refused, Or.inl ⟨rfl, Or.inl carries.labelled⟩⟩
  | none =>
      cases found : turn.state.pending.find? outbound.nextHop with
      | some request =>
          rw [output_of_joined known found] at failed
          cases failed
      | none =>
          rw [output_of_opened delivers known found] at failed ⊢
          have stillNothing :
              ({ turn with state := turn.state.await outbound } : Turn).handedOver = [] :=
            nothingYet
          obtain ⟨failure, isLink, refused⟩ := refusedOnly_of_transmit stillNothing failed
          exact ⟨failure, _, isLink, refused,
            Or.inr ⟨outbound, rfl, rfl, delivers.waitsAlone found⟩⟩

/-- An arrival that ends in an error leaves no trace, unless the error is a failure of
the link.  The error is then that the frame does not concern the router, that the frame
or a packet in it is at fault, or that no route leads back to the source of the datagram.

If the link fails, one frame was handed over, which the link has refused.  Only if this
frame is an ARP request has the state changed, by the new request for the next hop of
the datagram that the router has decided to send. -/
theorem dropped_frames_leave_no_trace {interfaces : List Interface} {routes : RoutingTable}
    {settings : Settings} (built : build interfaces routes settings = .ok router)
    (events : List (Environment × RouterEvent)) (environment : Environment) (name : String)
    (octets : Octets)
    (failed : (router.step environment (router.run .initial events)
      (.arrival name octets)).2 = .error error) :
    let state := router.run .initial events
    let turn := (router.step environment state (.arrival name octets)).1
    (turn = Turn.start state ∧
      (error = .ignored ∨ (∃ fault, error = .packet fault) ∨
        ∃ packet, Ipv4Packet.ofFrame octets = .ok packet ∧ error = .noRoute packet.source ∧
          router.routes.lookup packet.source = none)) ∨
    ∃ failure transmission, error = .link failure ∧ turn.RefusedOnly transmission failure ∧
      router.RefusalLeaves state turn.state transmission (fun outbound =>
        ∃ arrival, router.interfaces.byName? name = some arrival ∧
          router.dispatch (environment.identification 0) arrival octets = .ok outbound) := by
  intro state turn
  simp only [step] at failed
  simp only [turn, step]
  rcases receive_cases router environment (Turn.start state) name octets with
    ⟨packet, -, received⟩ | ⟨-, ⟨other, reason, received⟩ |
      ⟨arrival, request, -, -, received⟩ | ⟨arrival, found, ipv4, received⟩⟩
  · rw [received] at failed
    cases failed
  · rw [received] at failed ⊢
    cases failed
    exact Or.inl ⟨rfl, reason.imp_right Or.inl⟩
  · rw [received] at failed ⊢
    obtain ⟨failure, isLink, refused⟩ := refusedOnly_of_transmit rfl failed
    exact Or.inr ⟨failure, _, isLink, refused,
      Or.inl ⟨rfl, Or.inr ⟨arrival, request, rfl⟩⟩⟩
  · rw [received] at failed ⊢
    simp only [receiveDatagram, submit, submitAs] at failed ⊢
    split at failed
    next other unsent =>
      cases failed
      exact Or.inl ⟨rfl, Or.inr (error_of_dispatch (connected_of_build built) unsent)⟩
    next outbound decided =>
      have delivers := delivers_of_dispatch (Interfaces.name_of_byName? found ▸ found) ipv4 decided
      obtain ⟨failure, transmission, isLink, refused, leaves⟩ := error_of_output delivers
        (by rw [Turn.handedOver_record]; rfl) failed
      refine Or.inr ⟨failure, transmission, isLink, refused, leaves.imp_right ?_⟩
      rintro ⟨_, rfl, asked, waits⟩
      exact ⟨_, ⟨arrival, found, decided⟩, asked, waits⟩

/-- The link refuses the ARP request on behalf of a datagram that arrives, so the datagram
waits; and a datagram that cannot be answered for want of a route is dropped. -/
theorem dropped_frames_leave_no_trace_solicitation :
    let lan : Interface := ⟨"lan", ⟨2, 0, 0, 0, 0, 1⟩, ⟨10, 0, 0, 1⟩⟩
    let wan : Interface := ⟨"wan", ⟨2, 0, 0, 0, 0, 2⟩, ⟨10, 0, 1, 1⟩⟩
    let route : Route := ⟨⟨10, 2, 0, 0⟩, ⟨10, 0, 1, 9⟩, ⟨255, 255, 0, 0⟩, "wan"⟩
    let routes : RoutingTable := ⟨[route], List.pairwise_singleton _ _⟩
    let router : Router := ⟨⟨[lan, wan], by decide⟩, routes, {}⟩
    let refusing : Environment := ⟨fun _ _ => some (.reported "link down"), fun _ => 0⟩
    let arrivalOf := fun (header : Ipv4Header) => RouterEvent.arrival "lan"
      (EthernetFrame.assemble lan.mac ⟨2, 0, 0, 0, 0, 7⟩ EthernetFrame.ipv4Type
        (header.attach []))
    let onward := arrivalOf ⟨⟨10, 0, 0, 7⟩, ⟨10, 2, 3, 4⟩, 17, 64, 0, 0⟩
    let stray := arrivalOf ⟨⟨10, 0, 0, 7⟩, ⟨10, 3, 0, 1⟩, 17, 64, 0, 0⟩
    build [lan, wan] routes {} = .ok router ∧
    (router.step refusing .initial onward).2 = .error (.link (.reported "link down")) ∧
    (∃ failure transmission,
      (router.step refusing .initial onward).1.RefusedOnly transmission failure) ∧
    (router.step refusing .initial stray).2 = .error (.noRoute ⟨10, 0, 0, 7⟩) ∧
    (router.step refusing .initial stray).1 = Turn.start .initial := by
  intro lan wan route routes router refusing arrivalOf onward stray
  have built : build [lan, wan] routes {} = .ok router := rfl
  have refused : (router.step refusing .initial onward).2 =
      .error (.link (.reported "link down")) := by decide +kernel
  have unrouted : (router.step refusing .initial stray).2 =
      .error (.noRoute ⟨10, 0, 0, 7⟩) := by decide +kernel
  refine ⟨built, refused, ?_, unrouted, ?_⟩
  · rcases dropped_frames_leave_no_trace built [] refusing "lan" _ refused with
      ⟨-, ignored | ⟨fault, isFault⟩ | ⟨packet, -, isNoRoute, -⟩⟩ |
      ⟨failure, transmission, -, refusedOnly, -⟩
    · cases ignored
    · cases isFault
    · cases isNoRoute
    · exact ⟨failure, transmission, refusedOnly⟩
  · rcases dropped_frames_leave_no_trace built [] refusing "lan" _ unrouted with
      ⟨nothing, -⟩ | ⟨failure, transmission, isLink, -⟩
    · exact nothing
    · cases isLink

end Router

end Ipv4Router
