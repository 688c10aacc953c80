import Ipv4Router.Proofs.PaddingIndifference
import Ipv4Router.Proofs.WrittenPackets

/-!
# Answers to ARP requests

An ARP request tells the hardware address of the one who asked.  A router does not take notice of
it: it answers if the request is for one of its own addresses, and does nothing if it is not.  The
answer goes out through the interface on which the request has arrived, and tells the hardware
address of that interface, no matter which interface the address in question belongs to.

In neither case does the router remember anything, so a request leaves no trace but the answer.
A run from which all ARP requests are taken away goes through the same states, and each event that
is left takes the same turn and ends in the same way.
-/

namespace Ipv4Router

/-- The frame of a transmission is the answer to an ARP request that has arrived on an
interface. -/
structure Transmission.Answers (reply : Transmission) (arrival : Interface) (request : ArpPacket) :
    Prop where
  leaves : reply.interface = arrival.name
  length : reply.frame.length = 42
  source : (EthernetFrame.mk reply.frame).source = arrival.mac
  destination : (EthernetFrame.mk reply.frame).destination = request.sourceMac
  holds : (EthernetFrame.mk reply.frame).arpPacket? = some {
    operation := .reply
    sourceMac := arrival.mac
    sourceAddress := request.targetAddress
    targetMac := request.sourceMac
    targetAddress := request.sourceAddress }

theorem Interface.answers_arpReplyTo (arrival : Interface) (request : ArpPacket) :
    (arrival.arpReplyTo request).Answers arrival request where
  leaves := rfl
  length := by
    rw [arpReplyTo, EthernetFrame.length_assemble, ArpPacket.length_toOctets]
    rfl
  source := EthernetFrame.source_assemble _ _ _ _
  destination := EthernetFrame.destination_assemble _ _ _ _
  holds := by
    rw [EthernetFrame.arpPacket?_eq_some_iff, arpReplyTo, EthernetFrame.payloadType_assemble,
      EthernetFrame.payload_assemble, ← List.append_nil (ArpPacket.toOctets _)]
    exact ⟨rfl, ArpPacket.ofOctets_toOctets _ []⟩

namespace Router

/-- A frame passes the filter of the interface on which it arrives, and its payload starts with
an ARP request. -/
structure IsAsked (router : Router) (name : String) (octets : Octets) (arrival : Interface)
    (request : ArpPacket) : Prop where
  found : router.interfaces.byName? name = some arrival
  accepted : EthernetFrame.ofOctets octets = .ok ⟨octets⟩
  addressed : (EthernetFrame.mk octets).destination = arrival.mac ∨
    (EthernetFrame.mk octets).destination = MacAddress.broadcast
  holds : (EthernetFrame.mk octets).arpPacket? = some request
  operation : request.operation = .request

/-- The ARP request that a router is asked in an event, and the interface on which it has
arrived. -/
def asked? (router : Router) : RouterEvent → Option (Interface × ArpPacket)
  | .arrival name octets =>
      match router.interfaces.byName? name, EthernetFrame.ofOctets octets with
      | some arrival, .ok frame =>
          if frame.destination = arrival.mac ∨ frame.destination = MacAddress.broadcast then
            (frame.arpPacket?.filter (fun packet => packet.operation = .request)).map
              (Prod.mk arrival)
          else none
      | _, _ => none
  | .advance _ => none
  | .sweep => none

/-- The events of a run other than ARP requests that the router is asked. -/
def withoutArpRequests (router : Router) (events : List (Environment × RouterEvent)) :
    List (Environment × RouterEvent) :=
  events.filter (fun given => (router.asked? given.2).isNone)

variable {router : Router} {environment : Environment} {state : RouterState}
  {arrival : Interface} {request : ArpPacket}

theorem asked?_eq_some_iff {event : RouterEvent} :
    router.asked? event = some (arrival, request) ↔
      ∃ name octets, event = .arrival name octets ∧ router.IsAsked name octets arrival request := by
  constructor
  · intro taken
    cases event with
    | arrival name octets =>
        simp only [asked?] at taken
        split at taken
        next other frame found accepted =>
          split at taken
          next addressed =>
            obtain ⟨packet, filtered, same⟩ := Option.map_eq_some_iff.mp taken
            obtain ⟨holds, operation⟩ := Option.filter_eq_some_iff.mp filtered
            cases same
            obtain ⟨-, -, rfl⟩ := EthernetFrame.ofOctets_eq_ok_iff.mp accepted
            exact ⟨name, octets, rfl, found, accepted, addressed, holds,
              of_decide_eq_true operation⟩
          next => cases taken
        next => cases taken
    | advance duration => cases taken
    | sweep => cases taken
  · rintro ⟨name, octets, rfl, asked⟩
    simp only [asked?, asked.found, asked.accepted, if_pos asked.addressed, asked.holds,
      Option.filter_some, asked.operation, decide_true, if_true, Option.map_some]

section IsAsked

variable {name : String} {octets : Octets}

theorem IsAsked.step_eq (asked : router.IsAsked name octets arrival request) :
    router.step environment state (.arrival name octets) =
      if router.owns request.targetAddress then
        (Turn.start state).transmit environment (arrival.arpReplyTo request) none
      else (Turn.start state, .error .ignored) := by
  obtain ⟨long, short, -⟩ := EthernetFrame.ofOctets_eq_ok_iff.mp asked.accepted
  obtain ⟨labelled, readable⟩ := EthernetFrame.arpPacket?_eq_some_iff.mp asked.holds
  have admissible : router.Admissible name octets := by
    refine ⟨long, short, ?_⟩
    intro other found
    rw [asked.found] at found
    cases found
    exact asked.addressed
  simp only [step, receive_of_admissible asked.found admissible, labelled, if_true, receiveArp,
    readable, asked.operation, Turn.sendArp_eq]
  rfl

theorem IsAsked.state_eq (asked : router.IsAsked name octets arrival request) :
    (router.step environment state (.arrival name octets)).1.state = state := by
  rw [asked.step_eq]
  split <;> rfl

theorem IsAsked.answered (asked : router.IsAsked name octets arrival request)
    (owned : router.owns request.targetAddress) (environment : Environment)
    (state : RouterState) :
    FailsAtMostAtLink (router.step environment state (.arrival name octets)).2 ∧
      (router.step environment state (.arrival name octets)).1.handedOver =
        [arrival.arpReplyTo request] := by
  rw [asked.step_eq, if_pos owned]
  refine ⟨Turn.failsAtMostAtLink_transmit _ _ _, ?_⟩
  rw [Turn.handedOver_transmit]
  rfl

end IsAsked

theorem state_of_asked {event : RouterEvent} (isAsked : (router.asked? event).isSome) :
    (router.step environment state event).1.state = state := by
  obtain ⟨⟨arrival, request⟩, found⟩ := Option.isSome_iff_exists.mp isAsked
  obtain ⟨name, octets, rfl, asked⟩ := asked?_eq_some_iff.mp found
  exact asked.state_eq

section Idle

variable {kept : Environment × RouterEvent → Bool}
  (idle : ∀ given state, kept given = false →
    (router.step given.1 state given.2).1.state = state)

include idle

/-- Events that change nothing, in whatever state they come, may be taken away from a run. -/
theorem run_filter (events : List (Environment × RouterEvent)) :
    router.run state (events.filter kept) = router.run state events := by
  induction events generalizing state with
  | nil => rfl
  | cons first rest ih =>
      cases stays : kept first with
      | true => simp only [List.filter_cons, stays, if_true, run, ih]
      | false =>
          simp only [List.filter_cons, stays, Bool.false_eq_true, if_false, run, ih,
            idle first state stays]

theorem turns_filter (events : List (Environment × RouterEvent)) :
    router.turns state (events.filter kept) =
      ((events.zip (router.turns state events)).filter (fun taken => kept taken.1)).map
        Prod.snd := by
  induction events generalizing state with
  | nil => rfl
  | cons first rest ih =>
      cases stays : kept first with
      | true =>
          simp only [turns, List.zip_cons_cons, List.filter_cons, stays, if_true, List.map_cons,
            ih]
      | false =>
          simp only [turns, List.zip_cons_cons, List.filter_cons, stays, Bool.false_eq_true,
            if_false, idle first state stays, ih]

end Idle

/-- An ARP request is not remembered.  If it is for the address of one of the interfaces, the
answer is handed over, and nothing else; if not, nothing is handed over.

So if all ARP requests are taken away from a run, it ends in the same state, and the turns of the
other events are the turns that they take in the whole run.  Should the link treat the later
frames otherwise for want of the answers, these turns are still alike. -/
theorem arp_requests_leave_no_trace (router : Router) (events : List (Environment × RouterEvent)) :
    (∀ environment name octets arrival request, router.IsAsked name octets arrival request →
      let state := router.run .initial events
      let outcome := router.step environment state (.arrival name octets)
      outcome.1.state = state ∧
      ((∃ interface ∈ router.interfaces.all, interface.address = request.targetAddress) →
        FailsAtMostAtLink outcome.2 ∧
          ∃ reply, outcome.1.handedOver = [reply] ∧ reply.Answers arrival request) ∧
      ((∀ interface ∈ router.interfaces.all, interface.address ≠ request.targetAddress) →
        outcome.1.handedOver = [] ∧ outcome.2 = .error .ignored)) ∧
    let others := router.withoutArpRequests events
    let turnsOfOthers := ((events.zip (router.turns .initial events)).filter
      (fun taken => (router.asked? taken.1.2).isNone)).map Prod.snd
    router.run .initial others = router.run .initial events ∧
    router.turns .initial others = turnsOfOthers ∧
    ∀ relinked, List.Forall₂ (fun one other => one.1.SameButLink other.1 ∧ one.2 = other.2)
        others relinked →
      List.Forall₂ OutcomesAlike turnsOfOthers (router.turns .initial relinked) := by
  have idle : ∀ (given : Environment × RouterEvent) state,
      (router.asked? given.2).isNone = false →
        (router.step given.1 state given.2).1.state = state :=
    fun given state asked => state_of_asked (Option.isNone_eq_false_iff.mp asked)
  have sameTurns : router.turns .initial (router.withoutArpRequests events) = _ :=
    turns_filter idle events
  refine ⟨?_, run_filter idle events, sameTurns, ?_⟩
  · intro environment name octets arrival request asked state outcome
    refine ⟨asked.state_eq, ?_, ?_⟩
    · rintro ⟨interface, member, isTarget⟩
      have owned : router.owns request.targetAddress = true := by
        by_contra notOwned
        exact owns_eq_false_iff.mp (eq_false_of_ne_true notOwned) interface member isTarget
      obtain ⟨result, handedOver⟩ := asked.answered owned environment state
      exact ⟨result, _, handedOver, arrival.answers_arpReplyTo request⟩
    · intro foreign
      have notOwned := owns_eq_false_iff.mpr foreign
      have ignored : outcome = (Turn.start state, .error .ignored) := by
        simp only [outcome, asked.step_eq, notOwned, Bool.false_eq_true, if_false]
      rw [ignored]
      exact ⟨rfl, rfl⟩
  · intro relinked same
    rw [← sameTurns]
    exact turns_alike same .initial

/-- While a datagram waits for a gateway, a neighbour on the other side asks for the address of
the interface towards the gateway, in a padded frame.  It is told the hardware address of the
interface on its own side, and what the gateway answers then is handled as if nobody had asked. -/
theorem arp_requests_leave_no_trace_padded :
    let lan : Interface := ⟨"lan", ⟨2, 0, 0, 0, 0, 1⟩, ⟨10, 0, 0, 1⟩⟩
    let wan : Interface := ⟨"wan", ⟨2, 0, 0, 0, 0, 2⟩, ⟨10, 0, 1, 1⟩⟩
    let gateway : Interface := ⟨"wan", ⟨2, 0, 0, 0, 0, 3⟩, ⟨10, 0, 1, 9⟩⟩
    let peer : Interface := ⟨"lan", ⟨2, 0, 0, 0, 0, 7⟩, ⟨10, 0, 0, 7⟩⟩
    let route : Route := ⟨⟨10, 2, 0, 0⟩, gateway.address, ⟨255, 255, 0, 0⟩, "wan"⟩
    let router : Router :=
      ⟨⟨[lan, wan], by decide⟩, ⟨[route], List.pairwise_singleton _ _⟩, {}⟩
    let environment : Environment := ⟨fun _ _ => none, fun _ => 0⟩
    let onward : Ipv4Header := ⟨peer.address, ⟨10, 2, 3, 4⟩, 17, 64, 0, 0⟩
    let datagram : Environment × RouterEvent := (environment, .arrival "lan"
      (EthernetFrame.assemble lan.mac peer.mac EthernetFrame.ipv4Type (onward.attach [])))
    let padded : Octets := (peer.arpRequestFor wan.address).frame ++ List.replicate 18 0
    let question : Environment × RouterEvent := (environment, .arrival "lan" padded)
    let answer : Environment × RouterEvent := (environment, .arrival "wan"
      (gateway.arpReplyTo (arpRequest wan gateway.address)).frame)
    let events := [datagram, question, answer]
    let state := router.run .initial [datagram]
    let outcome := router.step environment state (.arrival "lan" padded)
    router.IsAsked "lan" padded lan (arpRequest peer wan.address) ∧
    (∃ reply, outcome.1.handedOver = [reply] ∧
      reply.Answers lan (arpRequest peer wan.address)) ∧
    outcome.1.state = state ∧
    router.withoutArpRequests events = [datagram, answer] ∧
    router.run .initial [datagram, answer] = router.run .initial events := by
  intro lan wan gateway peer route router environment onward datagram padded question answer
    events state outcome
  have asked : router.IsAsked "lan" padded lan (arpRequest peer wan.address) := by
    constructor <;> decide +kernel
  have others : router.withoutArpRequests events = [datagram, answer] := by
    have notAskedFirst : (router.asked? datagram.2).isNone = true := by decide +kernel
    have askedThen : (router.asked? question.2).isNone = false := by decide +kernel
    have notAskedLast : (router.asked? answer.2).isNone = true := by decide +kernel
    simp only [withoutArpRequests, events, List.filter_cons, notAskedFirst, askedThen, notAskedLast,
      List.filter_nil, if_true, Bool.false_eq_true, if_false]
  obtain ⟨unchanged, answered, -⟩ := (arp_requests_leave_no_trace router [datagram]).1
    environment "lan" padded lan _ asked
  have owned : ∃ interface ∈ router.interfaces.all, interface.address = wan.address :=
    ⟨wan, by decide, rfl⟩
  obtain ⟨sameEnd, -⟩ := (arp_requests_leave_no_trace router events).2
  rw [others] at sameEnd
  refine ⟨asked, (answered owned).2, ?_, others, sameEnd⟩
  simp only [outcome, state, unchanged]

end Router

end Ipv4Router
