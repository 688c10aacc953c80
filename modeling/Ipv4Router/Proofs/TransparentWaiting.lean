import Ipv4Router.Proofs.CompletedFrames
import Ipv4Router.Proofs.LinkIndifference

/-!
# Waiting is transparent

An ARP reply releases the frames that waited for its sender.  Each is decided
about anew, and the decision is the one that it met when it came, as everything
that the decision depends on was made sure of then.  The hardware address has
just been learnt, so no frame waits again: one after the other they are handed to
the link, as they would be by a router that knew the address all along.

Apart from this queue and the entry of the sender, the reply changes nothing.
-/

namespace Ipv4Router

namespace Router

/-- A frame on its way to a next hop is handed over in a given form by a router in
any state in which the hardware address of the next hop is the given one.  A
datagram that is forwarded has one unit less to live than in the frame. -/
def HandsAtOnce (router : Router) (nextHop : Ipv4Address) (mac : MacAddress)
    (frame : DatagramFrame) (transmission : Transmission) : Prop :=
  ∃ packet route, Ipv4Packet.ofFrame frame.octets = .ok packet ∧
    router.routes.lookup packet.destination = some route ∧
    route.nextHop packet.destination = nextHop ∧
    (EthernetFrame.mk transmission.frame).payloadType = EthernetFrame.ipv4Type ∧
    match frame.origin with
    | .originated =>
        ∀ (environment : Environment) (state : RouterState),
          router.hardwareAddress? state nextHop = some mac →
            (router.submit environment (Turn.start state)
              (fun _ => router.originateFrame frame.octets)).1.handedOver = [transmission]
    | .forwarded name => ∃ arrival, router.interfaces.byName? name = some arrival ∧
        (∀ (environment : Environment) (state : RouterState),
          router.hardwareAddress? state nextHop = some mac →
            (router.receiveDatagram environment (Turn.start state) arrival
              frame.octets).1.handedOver = [transmission]) ∧
        (Ipv4Packet.mk (EthernetFrame.mk transmission.frame).payload).timeToLive.toNat + 1 =
          packet.timeToLive.toNat

variable {router : Router} {environment : Environment}

section Outbound

variable {turn : Turn} {outbound : Outbound} {mac : MacAddress}

theorem release_eq (environment : Environment) (delivers : router.Delivers outbound)
    (known : router.hardwareAddress? turn.state outbound.nextHop = some mac) :
    router.release environment turn outbound.frame =
      ((turn.record (.resumed outbound.frame outbound)).transmit environment
        ⟨outbound.egress.name, outbound.complete mac⟩ (some outbound)).1 := by
  have stillKnown : router.hardwareAddress?
      (turn.record (.resumed outbound.frame outbound)).state outbound.nextHop = some mac :=
    known
  simp only [release, submitAs, delivers.dispatchAgain_eq, output_of_known stillKnown]

/-- A new datagram is handed over at once if its next hop is known. -/
theorem handedOver_submit_start {state : RouterState}
    {decide : UInt16 → Except RouterError Outbound}
    (decided : ∀ identification, decide identification = .ok outbound)
    (known : router.hardwareAddress? state outbound.nextHop = some mac) :
    (router.submit environment (Turn.start state) decide).1.handedOver =
      [⟨outbound.egress.name, outbound.complete mac⟩] := by
  have stateKnown : router.hardwareAddress? (Turn.start state).state outbound.nextHop =
      some mac :=
    known
  rw [submit_of_known (decided _) stateKnown]
  rfl

theorem Delivers.handsAtOnce (delivers : router.Delivers outbound) (mac : MacAddress) :
    router.HandsAtOnce outbound.nextHop mac outbound.frame
      ⟨outbound.egress.name, outbound.complete mac⟩ := by
  have again := delivers.dispatchAgain_eq
  obtain ⟨packet, route, admits, -, nextHop⟩ := id delivers
  obtain ⟨long, -, read⟩ := Ipv4Packet.ofFrame_eq_ok_iff.mp admits.readable
  refine ⟨packet, route, admits.readable, admits.routed, nextHop.symm,
    (outbound.payloadType_complete mac long).trans admits.labelled, ?_⟩
  cases origin : outbound.frame.origin with
  | originated =>
      simp only [dispatchAgain, origin] at again
      exact fun environment state known => handedOver_submit_start again known
  | forwarded name =>
      obtain ⟨lively, -, arrival, found⟩ := admits.forwardable name origin
      simp only [dispatchAgain, origin, found] at again
      refine ⟨arrival, found, fun environment state known => handedOver_submit_start again known,
        ?_⟩
      obtain ⟨-, -, -, -, -, rfl⟩ := Ipv4Packet.ofOctets_eq_ok_iff.mp read
      rw [outbound.payload_complete_of_forwarded mac origin]
      exact Ipv4Packet.toNat_timeToLive_onward read (Nat.le_of_succ_le lively)

end Outbound

/-- The frames that waited for an address are handed over one by one, and nothing
that is remembered changes. -/
theorem foldl_release (environment : Environment) {address : Ipv4Address} {mac : MacAddress}
    (frames : List DatagramFrame) (turn : Turn)
    (known : router.hardwareAddress? turn.state address = some mac)
    (deliverable : ∀ frame ∈ frames, ∃ egress, router.Delivers ⟨egress, address, frame⟩) :
    ∃ transmissions, List.Forall₂ (router.HandsAtOnce address mac) frames transmissions ∧
      (frames.foldl (router.release environment) turn).state = turn.state ∧
      (frames.foldl (router.release environment) turn).handedOver =
        turn.handedOver ++ transmissions := by
  induction frames generalizing turn with
  | nil => exact ⟨[], List.Forall₂.nil, rfl, by simp⟩
  | cons frame rest ih =>
      obtain ⟨egress, delivers⟩ := deliverable frame List.mem_cons_self
      have released := release_eq environment delivers known
      obtain ⟨transmissions, hands, state, handedOver⟩ :=
        ih (router.release environment turn frame) (by rw [released]; exact known)
          (fun later member => deliverable later (List.mem_cons_of_mem _ member))
      refine ⟨_ :: transmissions, List.Forall₂.cons (delivers.handsAtOnce mac) hands, ?_, ?_⟩
      · rw [List.foldl_cons, state, released]
        rfl
      · rw [List.foldl_cons, handedOver, released]
        simp only [Turn.transmit, Turn.handedOver_record, JournalEntry.handedOver?,
          Option.toList, List.append_nil, List.append_assoc, List.singleton_append]

/-- An ARP reply is always received well.  Its sender is known from then on, with an
age of zero, and no request for the sender is left, but all other neighbours and
requests stay as they were.  The frames that waited for the sender, and nothing
else, are handed to the link, in order and in the form in which they would be
handed over at once by a router to which the sender is known. -/
theorem reply_releases_queue (router : Router) (events : List (Environment × RouterEvent))
    (environment : Environment) (name : String) (octets : Octets) {packet : ArpPacket}
    (heard : router.heard? (.arrival name octets) = some packet) :
    let state := router.run .initial events
    let outcome := router.step environment state (.arrival name octets)
    let after := outcome.1.state
    outcome.2 = .ok () ∧ after.now = state.now ∧
    router.hardwareAddress? after packet.sourceAddress = some packet.sourceMac ∧
    after.neighbors.find? packet.sourceAddress =
      some ⟨packet.sourceAddress, packet.sourceMac, state.now⟩ ∧
    (∀ address, address ≠ packet.sourceAddress →
      after.neighbors.find? address = state.neighbors.find? address) ∧
    after.pending =
      state.pending.filter (fun request => request.target ≠ packet.sourceAddress) ∧
    List.Forall₂ (router.HandsAtOnce packet.sourceAddress packet.sourceMac)
      (state.pending.framesFor packet.sourceAddress) outcome.1.handedOver := by
  intro state outcome after
  have consistent : router.Consistent state := consistent_run_initial router events
  have received : outcome = (router.learn environment (Turn.start state) packet.sourceAddress
      packet.sourceMac, .ok ()) := by
    rcases receive_cases router environment (Turn.start state) name octets with
      ⟨other, otherHeard, received⟩ | ⟨notHeard, -⟩
    · rw [heard] at otherHeard
      cases otherHeard
      exact received
    · rw [heard] at notHeard
      cases notHeard
  have known : router.hardwareAddress?
      (state.learn packet.sourceAddress packet.sourceMac) packet.sourceAddress =
        some packet.sourceMac :=
    NeighborCache.lookup_insert_self _ _ _ _ _
  obtain ⟨transmissions, hands, unchanged, handedOver⟩ :=
    foldl_release environment (state.pending.framesFor packet.sourceAddress)
      (Turn.start (state.learn packet.sourceAddress packet.sourceMac)) known
      (fun frame member => consistent.deliverable_of_mem_framesFor member)
  have turn : outcome.1 = (state.pending.framesFor packet.sourceAddress).foldl
      (router.release environment)
      (Turn.start (state.learn packet.sourceAddress packet.sourceMac)) := by
    rw [received]
    exact learn_eq
  have learnt : after = state.learn packet.sourceAddress packet.sourceMac := by
    simp only [after, turn]
    exact unchanged
  refine ⟨by rw [received], by rw [learnt]; rfl, by rw [learnt]; exact known, ?_, ?_, ?_, ?_⟩
  · rw [learnt]
    exact NeighborCache.find?_insert_self _ _ _ _
  · intro address other
    rw [learnt]
    exact NeighborCache.find?_insert_of_ne other
  · rw [learnt]
    exact eraseP_key_eq_filter consistent.distinctTargets _
  · rw [turn, handedOver]
    exact hands

/-- A datagram to forward and an echo reply of the router's own wait for one gateway.
The answer of the gateway releases both, although neighbours count as outdated as
soon as time passes. -/
theorem reply_releases_queue_gateway :
    let lan : Interface := ⟨"lan", ⟨2, 0, 0, 0, 0, 1⟩, ⟨10, 0, 0, 1⟩⟩
    let wan : Interface := ⟨"wan", ⟨2, 0, 0, 0, 0, 2⟩, ⟨10, 0, 1, 1⟩⟩
    let gateway : Interface := ⟨"wan", ⟨2, 0, 0, 0, 0, 3⟩, ⟨10, 0, 1, 9⟩⟩
    let route : Route := ⟨⟨10, 2, 0, 0⟩, gateway.address, ⟨255, 255, 0, 0⟩, "wan"⟩
    let router : Router :=
      ⟨⟨[lan, wan], by decide⟩, ⟨[route], List.pairwise_singleton _ _⟩, { cacheLifetime := 0 }⟩
    let environment : Environment := ⟨fun _ _ => none, fun _ => 0⟩
    let onward : Ipv4Header := ⟨⟨10, 0, 0, 7⟩, ⟨10, 2, 3, 4⟩, 17, 64, 0, 0⟩
    let ping : Ipv4Header := ⟨⟨10, 2, 9, 9⟩, lan.address, 1, 64, 0, 11⟩
    let frameTo := fun (interface : Interface) (datagram : Octets) =>
      EthernetFrame.assemble interface.mac ⟨2, 0, 0, 0, 0, 7⟩ EthernetFrame.ipv4Type datagram
    let events : List (Environment × RouterEvent) :=
      [(environment, .arrival "lan" (frameTo lan (onward.attach []))),
        (environment, .arrival "wan" (frameTo wan
          (ping.attach (IcmpPacket.ofMessage (.echoRequest 7 1) [1, 2, 3]).octets)))]
    let answer : Octets := (gateway.arpReplyTo (arpRequest wan gateway.address)).frame
    let state := router.run .initial events
    let outcome := router.step environment state (.arrival "wan" answer)
    (state.pending.framesFor gateway.address).map DatagramFrame.origin =
      [.forwarded "lan", .originated] ∧
    outcome.2 = .ok () ∧ outcome.1.state.pending = [] ∧
    List.Forall₂ (router.HandsAtOnce gateway.address gateway.mac)
      (state.pending.framesFor gateway.address) outcome.1.handedOver := by
  intro lan wan gateway route router environment onward ping frameTo events answer state outcome
  have heard : router.heard? (.arrival "wan" answer) =
      some (arpReply gateway (arpRequest wan gateway.address)) := by decide +kernel
  obtain ⟨received, -, -, -, -, -, hands⟩ :=
    reply_releases_queue router events environment "wan" answer heard
  exact ⟨by decide +kernel, received, by decide +kernel, hands⟩

end Router

end Ipv4Router
