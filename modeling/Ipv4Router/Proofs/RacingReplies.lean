import Ipv4Router.Proofs.Amplification
import Ipv4Router.Proofs.DatagramLedger
import Ipv4Router.Proofs.DroppedFrames
import Ipv4Router.Proofs.PaddingIndifference
import Ipv4Router.Proofs.TransparentWaiting

/-!
# Datagrams that race with replies

Datagrams arrive at the same time as the ARP replies about their next hops.  A datagram that
comes before the reply waits and is released by it; one that comes after the reply finds the
hardware address known.  Which of the two it is depends on the order of arrival, and so does
the order in which the frames are handed to the link, but not which frames these are.

Every frame that waits is counted as the copy that will be handed over once the hardware
address is known.  Counted in this way, an arriving datagram adds one copy and a reply none,
so nothing is lost or doubled on the way.  In the end all the hardware addresses are known,
and no copy is left that was not handed over.
-/

namespace Ipv4Router

namespace PendingRequests

/-- The frames that wait for one of some addresses. -/
def framesForAny (pending : PendingRequests) (targets : List Ipv4Address) :
    List DatagramFrame :=
  (pending.filter (fun request => request.target ∈ targets)).flatMap PendingRequest.frames

variable {pending : PendingRequests} {target : Ipv4Address} {targets : List Ipv4Address}

theorem framesForAny_cons (request : PendingRequest) (rest : PendingRequests) :
    framesForAny (request :: rest) targets =
      (if request.target ∈ targets then request.frames else []) ++
        framesForAny rest targets := by
  unfold framesForAny
  by_cases wanted : request.target ∈ targets
  · rw [List.filter_cons_of_pos (by simpa using wanted), List.flatMap_cons, if_pos wanted]
  · rw [List.filter_cons_of_neg (by simpa using wanted), if_neg wanted, List.nil_append]

theorem framesForAny_enqueue (member : target ∈ targets) (now : Nat) (frame : DatagramFrame)
    (interface : String) :
    (framesForAny (pending.enqueue now target frame interface).2 targets).Perm
      (pending.framesForAny targets ++ [frame]) := by
  induction pending with
  | nil => simp [enqueue, framesForAny, member]
  | cons request rest ih =>
      by_cases same : request.target = target
      · subst same
        simp only [enqueue, if_true, framesForAny_cons, if_pos member, List.append_assoc]
        exact List.perm_append_comm.append_left request.frames
      · simp only [enqueue, if_neg same, framesForAny_cons, List.append_assoc]
        exact ih.append_left _

theorem framesForAny_resolve (member : target ∈ targets) :
    (pending.framesFor target ++ framesForAny (pending.resolve target).2 targets).Perm
      (pending.framesForAny targets) := by
  induction pending with
  | nil => exact List.Perm.refl _
  | cons request rest ih =>
      simp only [resolve] at ih ⊢
      by_cases same : request.target = target
      · subst same
        rw [List.eraseP_cons_of_pos (by simp), framesFor, find?_cons_self, framesForAny_cons,
          if_pos member]
        exact List.Perm.refl _
      · rw [List.eraseP_cons_of_neg (by simpa using same), framesFor, find?_cons_of_ne same,
          framesForAny_cons, framesForAny_cons]
        exact (List.perm_append_comm_assoc _ _ _).trans (ih.append_left _)

theorem framesForAny_eq_nil (unknown : ∀ request ∈ pending, request.target ∉ targets) :
    pending.framesForAny targets = [] := by
  rw [framesForAny, List.filter_eq_nil_iff.mpr, List.flatMap_nil]
  intro request member
  simpa using unknown request member

end PendingRequests

/-- The IPv4 frames that were handed to the link in a turn, in order. -/
def Turn.datagrams (turn : Turn) : List Transmission :=
  turn.handedOver.filter Transmission.isDatagram

theorem Turn.datagrams_transmit (environment : Environment) (turn : Turn)
    (transmission : Transmission) (datagram : Option Outbound) :
    (turn.transmit environment transmission datagram).1.datagrams =
      turn.datagrams ++ [transmission].filter Transmission.isDatagram := by
  rw [datagrams, handedOver_transmit, List.filter_append, ← datagrams]

namespace Router

/-- A frame is handed over in a given form once the hardware address of its next hop is
known. -/
def Copies (router : Router) (macOf : Ipv4Address → MacAddress) (frame : DatagramFrame)
    (copy : Transmission) : Prop :=
  ∃ nextHop, router.HandsAtOnce nextHop (macOf nextHop) frame copy

/-- The form in which a frame is handed over, computed from the decision about it. -/
def copy? (router : Router) (macOf : Ipv4Address → MacAddress) (frame : DatagramFrame) :
    Option Transmission :=
  match router.dispatchAgain 0 frame with
  | .error _ => none
  | .ok outbound => some ⟨outbound.egress.name, outbound.complete (macOf outbound.nextHop)⟩

variable {router : Router} {macOf : Ipv4Address → MacAddress} {environment : Environment}
  {state : RouterState}

theorem Delivers.copy?_eq {outbound : Outbound} (delivers : router.Delivers outbound)
    (macOf : Ipv4Address → MacAddress) :
    router.copy? macOf outbound.frame =
      some ⟨outbound.egress.name, outbound.complete (macOf outbound.nextHop)⟩ := by
  rw [copy?, delivers.dispatchAgain_eq]

theorem Delivers.copies {outbound : Outbound} (delivers : router.Delivers outbound)
    {copy : Transmission} (copied : router.copy? macOf outbound.frame = some copy) :
    router.Copies macOf outbound.frame copy := by
  rw [delivers.copy?_eq macOf] at copied
  rw [← Option.some.inj copied]
  exact ⟨outbound.nextHop, delivers.handsAtOnce (macOf outbound.nextHop)⟩

theorem Copies.isDatagram {frame : DatagramFrame} {copy : Transmission}
    (copies : router.Copies macOf frame copy) : copy.isDatagram = true := by
  obtain ⟨nextHop, packet, route, -, -, -, labelled, -⟩ := copies
  exact decide_eq_true labelled

theorem forall₂_copies (macOf : Ipv4Address → MacAddress) {frames : List DatagramFrame}
    (deliverable : ∀ frame ∈ frames, ∃ egress nextHop,
      router.Delivers ⟨egress, nextHop, frame⟩) :
    List.Forall₂ (router.Copies macOf) frames (frames.filterMap (router.copy? macOf)) := by
  induction frames with
  | nil => exact .nil
  | cons frame rest ih =>
      obtain ⟨egress, nextHop, delivers⟩ := deliverable frame List.mem_cons_self
      have copied := delivers.copy?_eq macOf
      rw [List.filterMap_cons_some copied]
      exact .cons (delivers.copies copied)
        (ih (fun later member => deliverable later (List.mem_cons_of_mem _ member)))

/-- The senders of the ARP replies among some events. -/
def senders (router : Router) (events : List RouterEvent) : List Ipv4Address :=
  events.filterMap (fun event => (router.heard? event).map ArpPacket.sourceAddress)

theorem mem_senders {events : List RouterEvent} {address : Ipv4Address} :
    address ∈ router.senders events ↔ ∃ event ∈ events, ∃ answer,
      router.heard? event = some answer ∧ answer.sourceAddress = address := by
  simp only [senders, List.mem_filterMap, Option.map_eq_some_iff]

/-- The frame that an event brings, if it is not an ARP reply. -/
def brought? (router : Router) : RouterEvent → Option DatagramFrame
  | .arrival name octets =>
      if (router.heard? (.arrival name octets)).isNone then some ⟨octets, .forwarded name⟩
      else none
  | .advance _ => none
  | .sweep => none

/-- The events of a race: datagrams to forward to some next hops, and replies of some senders,
among them all the next hops, with the given hardware addresses. -/
inductive Races (router : Router) (macOf : Ipv4Address → MacAddress)
    (nextHops senders : List Ipv4Address) : RouterEvent → Prop
  | datagram {name : String} {octets : Octets} {packet : Ipv4Packet} {route : Route}
      (forwardable : router.Forwardable name octets packet route)
      (towards : route.nextHop packet.destination ∈ nextHops) :
      Races router macOf nextHops senders (.arrival name octets)
  | reply {event : RouterEvent} {answer : ArpPacket} (heard : router.heard? event = some answer)
      (agrees : answer.sourceMac = macOf answer.sourceAddress)
      (counted : answer.sourceAddress ∈ senders) :
      Races router macOf nextHops senders event

/-- What holds at every moment of a race: a next hop that is known is known by the hardware
address that its replies tell. -/
structure Racing (router : Router) (macOf : Ipv4Address → MacAddress)
    (nextHops : List Ipv4Address) (state : RouterState) : Prop where
  consistent : router.Consistent state
  agrees : ∀ address ∈ nextHops, ∀ mac,
    router.hardwareAddress? state address = some mac → mac = macOf address

/-- The copies of the frames that wait for one of some senders. -/
def waitingCopies (router : Router) (macOf : Ipv4Address → MacAddress)
    (senders : List Ipv4Address) (state : RouterState) : List Transmission :=
  (state.pending.framesForAny senders).filterMap (router.copy? macOf)

/-- In a turn that brings some frames, each of these and of the frames that waited for one of
some senders is handed over, or waits at the end of the turn. -/
def Conserves (router : Router) (macOf : Ipv4Address → MacAddress)
    (senders : List Ipv4Address) (state : RouterState) (turn : Turn)
    (brought : List DatagramFrame) : Prop :=
  (turn.datagrams ++ router.waitingCopies macOf senders turn.state).Perm
    (router.waitingCopies macOf senders state ++ brought.filterMap (router.copy? macOf))

section Steps

variable {name : String} {octets : Octets} {packet : Ipv4Packet} {route : Route}
  {nextHops senders : List Ipv4Address}

theorem Forwardable.heard?_eq (forwardable : router.Forwardable name octets packet route) :
    router.heard? (.arrival name octets) = none := by
  have notArp : EthernetFrame.ipv4Type ≠ EthernetFrame.arpType := by decide
  simp only [heard?]
  split
  next arrival frame found accepted =>
    obtain ⟨-, -, rfl⟩ := EthernetFrame.ofOctets_eq_ok_iff.mp accepted
    rw [if_neg]
    rintro ⟨-, arp⟩
    exact notArp (forwardable.admits.labelled.symm.trans arp)
  next => rfl

theorem Forwardable.brought?_eq (forwardable : router.Forwardable name octets packet route) :
    router.brought? (.arrival name octets) = some ⟨octets, .forwarded name⟩ := by
  rw [brought?, forwardable.heard?_eq]
  rfl

theorem brought?_of_heard {event : RouterEvent} {answer : ArpPacket}
    (heard : router.heard? event = some answer) : router.brought? event = none := by
  cases event with
  | arrival name octets =>
      rw [brought?, heard]
      rfl
  | advance duration => rfl
  | sweep => rfl

theorem step_of_heard {event : RouterEvent} {answer : ArpPacket}
    (heard : router.heard? event = some answer) (environment : Environment)
    (state : RouterState) :
    (router.step environment state event).1 =
      router.learn environment (Turn.start state) answer.sourceAddress answer.sourceMac := by
  cases event with
  | arrival name octets =>
      rcases receive_cases router environment (Turn.start state) name octets with
        ⟨other, otherHeard, received⟩ | ⟨notHeard, -⟩
      · rw [heard] at otherHeard
        cases otherHeard
        rw [step, received]
      · rw [heard] at notHeard
        cases notHeard
  | advance duration => cases heard
  | sweep => cases heard

/-- A reply makes its sender known and leaves the other addresses as they are. -/
theorem hardwareAddress?_of_heard {event : RouterEvent} {answer : ArpPacket}
    (consistent : router.Consistent state) (heard : router.heard? event = some answer)
    (environment : Environment) (address : Ipv4Address) :
    router.hardwareAddress? (router.step environment state event).1.state address =
      if address = answer.sourceAddress then some answer.sourceMac
      else router.hardwareAddress? state address := by
  rw [step_of_heard heard, (learn_course consistent _ _).hardwareAddress?_eq address]
  by_cases same : address = answer.sourceAddress
  · subst same
    rw [if_pos rfl]
    exact NeighborCache.lookup_insert_self _ _ _ _ _
  · rw [if_neg same]
    exact NeighborCache.lookup_insert_of_ne same

theorem Forwardable.hardwareAddress?_eq
    (forwardable : router.Forwardable name octets packet route)
    (consistent : router.Consistent state) (environment : Environment)
    (address : Ipv4Address) :
    router.hardwareAddress? (router.step environment state (.arrival name octets)).1.state
      address = router.hardwareAddress? state address := by
  rw [(step_course consistent environment (.arrival name octets)).hardwareAddress?_eq address,
    opening, forwardable.heard?_eq]
  rfl

/-- On behalf of a datagram that comes to wait, no datagram is handed over. -/
theorem datagrams_output_of_unknown {outbound : Outbound} (delivers : router.Delivers outbound)
    (unknown : router.hardwareAddress? state outbound.nextHop = none)
    (environment : Environment) :
    let turn := (router.output environment ((Turn.start state).record (.accepted outbound))
      outbound).1
    turn.state = state.await outbound ∧ turn.datagrams = [] := by
  have stillUnknown : router.hardwareAddress?
      ((Turn.start state).record (.accepted outbound)).state outbound.nextHop = none :=
    unknown
  obtain ⟨asked, waits, onlyAsked⟩ := output_of_unknown environment delivers stillUnknown
  simp only [waits]
  refine ⟨rfl, ?_⟩
  rw [Turn.datagrams, List.filter_eq_nil_iff]
  intro transmission member
  obtain ⟨entry, noted, handed⟩ := List.mem_filterMap.mp member
  rcases List.mem_append.mp noted with accepted | new
  · rw [List.mem_singleton.mp accepted] at handed
    cases handed
  · obtain ⟨refusal, rfl⟩ := onlyAsked entry new
    cases handed
    rw [Transmission.isDatagram, Interface.arpRequestFor, EthernetFrame.payloadType_assemble]
    decide

/-- A datagram is handed over or comes to wait for its next hop. -/
theorem Racing.conserves_datagram (racing : router.Racing macOf nextHops state)
    (connected : router.Connected) (contained : nextHops ⊆ senders)
    (forwardable : router.Forwardable name octets packet route)
    (towards : route.nextHop packet.destination ∈ nextHops) (environment : Environment) :
    router.Conserves macOf senders state
      (router.step environment state (.arrival name octets)).1
      [⟨octets, .forwarded name⟩] := by
  obtain ⟨outbound, delivers, nextHop, frame, stepped⟩ :=
    forwardable.step_eq connected environment state
  rw [← nextHop] at towards
  rw [stepped, ← frame, Conserves]
  cases known : router.hardwareAddress? state outbound.nextHop with
  | some mac =>
      have stillKnown : router.hardwareAddress?
          ((Turn.start state).record (.accepted outbound)).state outbound.nextHop = some mac :=
        known
      have copied := delivers.copy?_eq macOf
      rw [racing.agrees outbound.nextHop towards mac known] at stillKnown
      rw [output_of_known stillKnown, Turn.datagrams_transmit,
        List.filter_cons_of_pos (delivers.copies copied).isDatagram,
        List.filterMap_cons_some copied]
      exact List.perm_append_comm
  | none =>
      obtain ⟨waits, nothing⟩ := datagrams_output_of_unknown delivers known environment
      rw [nothing, List.nil_append, waitingCopies, waits, waitingCopies,
        ← List.filterMap_append]
      exact (PendingRequests.framesForAny_enqueue (contained towards) _ _ _).filterMap _

theorem handedOver_foldl_release (environment : Environment) {address : Ipv4Address}
    (frames : List DatagramFrame) (turn : Turn)
    (known : router.hardwareAddress? turn.state address = some (macOf address))
    (deliverable : ∀ frame ∈ frames, ∃ egress, router.Delivers ⟨egress, address, frame⟩) :
    (frames.foldl (router.release environment) turn).handedOver =
      turn.handedOver ++ frames.filterMap (router.copy? macOf) := by
  induction frames generalizing turn with
  | nil => exact (List.append_nil _).symm
  | cons frame rest ih =>
      obtain ⟨egress, delivers⟩ := deliverable frame List.mem_cons_self
      have released := release_eq environment delivers known
      rw [List.foldl_cons, ih (router.release environment turn frame)
        (by rw [released]; exact known)
        (fun later member => deliverable later (List.mem_cons_of_mem _ member)),
        released, Turn.handedOver_transmit, List.filterMap_cons_some (delivers.copy?_eq macOf),
        Turn.handedOver_record]
      simp only [JournalEntry.handedOver?, Option.toList_none, List.append_nil,
        List.append_assoc, List.singleton_append]

/-- A reply releases the frames that waited for its sender. -/
theorem conserves_reply (consistent : router.Consistent state) {event : RouterEvent}
    {answer : ArpPacket} (heard : router.heard? event = some answer)
    (agrees : answer.sourceMac = macOf answer.sourceAddress)
    (counted : answer.sourceAddress ∈ senders) (environment : Environment) :
    router.Conserves macOf senders state (router.step environment state event).1 [] := by
  have known : router.hardwareAddress? (state.learn answer.sourceAddress answer.sourceMac)
      answer.sourceAddress = some (macOf answer.sourceAddress) := by
    rw [← agrees]
    exact NeighborCache.lookup_insert_self _ _ _ _ _
  have deliverable : ∀ frame ∈ state.pending.framesFor answer.sourceAddress,
      ∃ egress, router.Delivers ⟨egress, answer.sourceAddress, frame⟩ :=
    fun frame member => consistent.deliverable_of_mem_framesFor member
  have released : (router.step environment state event).1 =
      (state.pending.framesFor answer.sourceAddress).foldl (router.release environment)
        (Turn.start (state.learn answer.sourceAddress answer.sourceMac)) := by
    rw [step_of_heard heard]
    exact learn_eq
  obtain ⟨-, -, unchanged, -⟩ := foldl_release environment
    (state.pending.framesFor answer.sourceAddress)
    (Turn.start (state.learn answer.sourceAddress answer.sourceMac)) known deliverable
  have datagrams : (router.step environment state event).1.datagrams =
      (state.pending.framesFor answer.sourceAddress).filterMap (router.copy? macOf) := by
    rw [released, Turn.datagrams, handedOver_foldl_release environment _ _ known deliverable]
    refine List.filter_eq_self.mpr ?_
    intro copy member
    obtain ⟨frame, waits, copied⟩ := List.mem_filterMap.mp member
    obtain ⟨egress, delivers⟩ := deliverable frame waits
    exact (delivers.copies copied).isDatagram
  rw [Conserves, datagrams, released, unchanged, waitingCopies, List.filterMap_nil,
    List.append_nil, ← List.filterMap_append]
  exact (PendingRequests.framesForAny_resolve counted).filterMap _

/-- A race may begin at any time, with the senders that are not known as its next hops. -/
theorem Consistent.racing (consistent : router.Consistent state)
    (macOf : Ipv4Address → MacAddress) (senders : List Ipv4Address) :
    router.Racing macOf
      (senders.filter (fun address => (router.hardwareAddress? state address).isNone)) state where
  consistent := consistent
  agrees := by
    intro address member mac known
    have unknown := (List.mem_filter.mp member).2
    rw [known] at unknown
    cases unknown

theorem Consistent.deliverable_of_mem_framesForAny (consistent : router.Consistent state)
    {frame : DatagramFrame} (member : frame ∈ state.pending.framesForAny senders) :
    ∃ egress nextHop, router.Delivers ⟨egress, nextHop, frame⟩ := by
  obtain ⟨request, waits, queued⟩ := List.mem_flatMap.mp member
  obtain ⟨egress, delivers⟩ :=
    (consistent.sound request (List.mem_filter.mp waits).1).deliverable frame queued
  exact ⟨egress, request.target, delivers⟩

/-- An event of the race conserves the frames, and the race goes on. -/
theorem Racing.step (racing : router.Racing macOf nextHops state)
    (connected : router.Connected) (contained : nextHops ⊆ senders) {event : RouterEvent}
    (races : router.Races macOf nextHops senders event) (environment : Environment) :
    router.Conserves macOf senders state (router.step environment state event).1
        (router.brought? event).toList ∧
      router.Racing macOf nextHops (router.step environment state event).1.state := by
  have consistent := racing.consistent.step environment event
  cases races with
  | datagram forwardable towards =>
      refine ⟨?_, consistent, ?_⟩
      · rw [forwardable.brought?_eq]
        exact racing.conserves_datagram connected contained forwardable towards environment
      · intro address member mac known
        rw [forwardable.hardwareAddress?_eq racing.consistent environment] at known
        exact racing.agrees address member mac known
  | @reply event answer heard agrees counted =>
      refine ⟨?_, consistent, ?_⟩
      · rw [brought?_of_heard heard]
        exact conserves_reply racing.consistent heard agrees counted environment
      · intro address member mac known
        rw [hardwareAddress?_of_heard racing.consistent heard environment] at known
        by_cases same : address = answer.sourceAddress
        · rw [if_pos same] at known
          rw [← Option.some.inj known, agrees, same]
        · rw [if_neg same] at known
          exact racing.agrees address member mac known

/-- In the race, what is known stays known, and the sender of a reply becomes known. -/
theorem Racing.isSome_step (racing : router.Racing macOf nextHops state) {event : RouterEvent}
    (races : router.Races macOf nextHops senders event) (environment : Environment)
    {address : Ipv4Address}
    (known : (∃ answer, router.heard? event = some answer ∧ answer.sourceAddress = address) ∨
      (router.hardwareAddress? state address).isSome) :
    (router.hardwareAddress? (router.step environment state event).1.state address).isSome := by
  cases races with
  | datagram forwardable towards =>
      rw [forwardable.hardwareAddress?_eq racing.consistent environment]
      rcases known with ⟨answer, heard, -⟩ | before
      · rw [forwardable.heard?_eq] at heard
        cases heard
      · exact before
  | @reply event answer heard agrees counted =>
      rw [hardwareAddress?_of_heard racing.consistent heard environment]
      by_cases same : address = answer.sourceAddress
      · rw [if_pos same]
        rfl
      · rw [if_neg same]
        rcases known with ⟨other, otherHeard, rfl⟩ | before
        · rw [heard] at otherHeard
          cases otherHeard
          exact absurd rfl same
        · exact before

variable {order : List (Environment × RouterEvent)}

/-- What is handed over in the race, and what still waits after it, is what waited before it
and what the race has brought. -/
theorem Racing.run (racing : router.Racing macOf nextHops state)
    (connected : router.Connected) (contained : nextHops ⊆ senders)
    (races : ∀ entrant ∈ order, router.Races macOf nextHops senders entrant.2) :
    ((router.turns state order).flatMap (fun outcome => outcome.1.datagrams) ++
        router.waitingCopies macOf senders (router.run state order)).Perm
      (router.waitingCopies macOf senders state ++
        ((order.map Prod.snd).filterMap router.brought?).filterMap (router.copy? macOf)) ∧
      router.Racing macOf nextHops (router.run state order) := by
  induction order generalizing state with
  | nil => exact ⟨List.perm_append_comm, racing⟩
  | cons first rest ih =>
      obtain ⟨conserves, next⟩ :=
        racing.step connected contained (races first List.mem_cons_self) first.1
      obtain ⟨restConserves, last⟩ :=
        ih next (fun later member => races later (List.mem_cons_of_mem _ member))
      have brought : ((first :: rest).map Prod.snd).filterMap router.brought? =
          (router.brought? first.2).toList ++ (rest.map Prod.snd).filterMap router.brought? := by
        rw [List.map_cons, List.filterMap_cons]
        cases router.brought? first.2 <;> rfl
      refine ⟨?_, last⟩
      rw [turns, List.flatMap_cons, List.append_assoc, brought, List.filterMap_append]
      refine (restConserves.append_left _).trans ?_
      rw [← List.append_assoc, ← List.append_assoc]
      exact conserves.append_right _

theorem Racing.isSome_run (racing : router.Racing macOf nextHops state)
    (connected : router.Connected) (contained : nextHops ⊆ senders)
    (races : ∀ entrant ∈ order, router.Races macOf nextHops senders entrant.2)
    {address : Ipv4Address}
    (known : address ∈ router.senders (order.map Prod.snd) ∨
      (router.hardwareAddress? state address).isSome) :
    (router.hardwareAddress? (router.run state order) address).isSome := by
  induction order generalizing state with
  | nil =>
      rcases known with impossible | before
      · cases impossible
      · exact before
  | cons first rest ih =>
      have firstRaces := races first List.mem_cons_self
      apply ih (racing.step connected contained firstRaces first.1).2
        (fun later member => races later (List.mem_cons_of_mem _ member))
      rcases known with sender | before
      · obtain ⟨event, member, answer, heard, isSender⟩ := mem_senders.mp sender
        rcases List.mem_cons.mp member with rfl | later
        · exact Or.inr (racing.isSome_step firstRaces first.1
            (Or.inl ⟨answer, heard, isSender⟩))
        · exact Or.inl (mem_senders.mpr ⟨event, later, answer, heard, isSender⟩)
      · exact Or.inr (racing.isSome_step firstRaces first.1 (Or.inr before))

theorem filterMap_brought? {datagrams : List (String × Octets)} {replies : List RouterEvent}
    (forwarded : ∀ datagram ∈ datagrams, ∃ packet route,
      router.Forwardable datagram.1 datagram.2 packet route)
    (heard : ∀ reply ∈ replies, ∃ answer, router.heard? reply = some answer) :
    (datagrams.map (fun datagram => RouterEvent.arrival datagram.1 datagram.2) ++
      replies).filterMap router.brought? =
        datagrams.map (fun datagram => ⟨datagram.2, .forwarded datagram.1⟩) := by
  have nothing : replies.filterMap router.brought? = [] := by
    rw [List.filterMap_eq_nil_iff]
    intro reply replied
    obtain ⟨answer, isHeard⟩ := heard reply replied
    exact brought?_of_heard isHeard
  rw [List.filterMap_append, nothing, List.append_nil, List.filterMap_map,
    ← List.filterMap_eq_map]
  apply List.filterMap_congr
  intro datagram present
  obtain ⟨packet, route, forwardable⟩ := forwarded datagram present
  exact forwardable.brought?_eq

/-- When all the senders have been heard, nothing waits for them any more. -/
theorem Racing.nothing_waits (racing : router.Racing macOf nextHops state)
    (known : ∀ address ∈ senders, (router.hardwareAddress? state address).isSome) :
    ∀ request ∈ state.pending, request.target ∉ senders := by
  intro request member counted
  have isKnown := known request.target counted
  rw [racing.consistent.unresolved request member] at isKnown
  cases isKnown

end Steps

/-- Datagrams to forward, the next hops of which are not known, arrive at the same time as ARP
replies, at least one about each next hop and no two that differ about a sender.  Whatever the
order, the same IPv4 frames are handed to the link: one copy of each datagram, and one of each
frame that waited for a sender before.  No request for a sender is left in the end. -/
theorem datagrams_forwarded_once {interfaces : List Interface} {routes : RoutingTable}
    {settings : Settings} (built : build interfaces routes settings = .ok router)
    (history : List (Environment × RouterEvent)) (datagrams : List (String × Octets))
    (replies : List RouterEvent) (macOf : Ipv4Address → MacAddress)
    (forwarded : ∀ datagram ∈ datagrams, ∃ packet route,
      router.Forwardable datagram.1 datagram.2 packet route ∧
      router.hardwareAddress? (router.run .initial history)
        (route.nextHop packet.destination) = none ∧
      route.nextHop packet.destination ∈ router.senders replies)
    (heard : ∀ reply ∈ replies, ∃ answer, router.heard? reply = some answer ∧
      answer.sourceMac = macOf answer.sourceAddress) :
    let state := router.run .initial history
    ∃ copies released,
      List.Forall₂ (router.Copies macOf)
        (datagrams.map (fun datagram => ⟨datagram.2, .forwarded datagram.1⟩)) copies ∧
      List.Forall₂ (router.Copies macOf)
        (state.pending.framesForAny (router.senders replies)) released ∧
      ∀ order : List (Environment × RouterEvent),
        (order.map Prod.snd).Perm
          (datagrams.map (fun datagram => .arrival datagram.1 datagram.2) ++ replies) →
        ((router.turns state order).flatMap (fun outcome => outcome.1.datagrams)).Perm
          (copies ++ released) ∧
        ∀ request ∈ (router.run state order).pending,
          request.target ∉ router.senders replies := by
  intro state
  have connected := connected_of_build built
  have consistent : router.Consistent state := consistent_run_initial router history
  have forwardable : ∀ datagram ∈ datagrams, ∃ packet route,
      router.Forwardable datagram.1 datagram.2 packet route := by
    intro datagram present
    obtain ⟨packet, route, isForwardable, -⟩ := forwarded datagram present
    exact ⟨packet, route, isForwardable⟩
  have audible : ∀ reply ∈ replies, ∃ answer, router.heard? reply = some answer := by
    intro reply replied
    obtain ⟨answer, isHeard, -⟩ := heard reply replied
    exact ⟨answer, isHeard⟩
  have brought := filterMap_brought? forwardable audible
  refine ⟨_, _, forall₂_copies macOf ?_, forall₂_copies macOf
    (fun frame member => consistent.deliverable_of_mem_framesForAny member), ?_⟩
  · intro frame member
    obtain ⟨datagram, present, rfl⟩ := List.mem_map.mp member
    obtain ⟨packet, route, isForwardable⟩ := forwardable datagram present
    obtain ⟨egress, delivers⟩ := isForwardable.delivers connected
    exact ⟨egress, _, delivers⟩
  · intro order permuted
    -- The next hops of the datagrams are among the senders that are not known yet.
    let nextHops := (router.senders replies).filter
      (fun address => (router.hardwareAddress? state address).isNone)
    have racing : router.Racing macOf nextHops state :=
      consistent.racing macOf (router.senders replies)
    have contained : nextHops ⊆ router.senders replies := List.filter_subset_self _
    have races : ∀ entrant ∈ order,
        router.Races macOf nextHops (router.senders replies) entrant.2 := by
      intro entrant member
      rcases List.mem_append.mp (permuted.subset (List.mem_map_of_mem member)) with
        arrives | replied
      · obtain ⟨datagram, present, isArrival⟩ := List.mem_map.mp arrives
        obtain ⟨packet, route, isForwardable, unknown, answered⟩ := forwarded datagram present
        rw [← isArrival]
        exact .datagram isForwardable
          (List.mem_filter.mpr ⟨answered, Option.isNone_iff_eq_none.mpr unknown⟩)
      · obtain ⟨answer, isHeard, agrees⟩ := heard entrant.2 replied
        exact .reply isHeard agrees (mem_senders.mpr ⟨_, replied, answer, isHeard, rfl⟩)
    have known : ∀ address ∈ router.senders replies,
        (router.hardwareAddress? (router.run state order) address).isSome := by
      intro address sender
      obtain ⟨reply, replied, answer, isHeard, isSender⟩ := mem_senders.mp sender
      apply racing.isSome_run connected contained races
      exact Or.inl (mem_senders.mpr ⟨reply,
        permuted.symm.subset (List.mem_append_right _ replied), answer, isHeard, isSender⟩)
    obtain ⟨conserved, last⟩ := racing.run connected contained races
    have nothingWaits := last.nothing_waits known
    rw [waitingCopies, PendingRequests.framesForAny_eq_nil nothingWaits, List.filterMap_nil,
      List.append_nil] at conserved
    have arrived := permuted.filterMap router.brought?
    rw [brought] at arrived
    refine ⟨(conserved.trans ?_).trans List.perm_append_comm, nothingWaits⟩
    exact (arrived.filterMap _).append_left _

/-- A datagram waits for a gateway, and another one arrives together with the answer of the
gateway.  Both are handed over, whichever of the two arrivals comes first. -/
theorem datagrams_forwarded_once_gateway :
    let lan : Interface := ⟨"lan", ⟨2, 0, 0, 0, 0, 1⟩, ⟨10, 0, 0, 1⟩⟩
    let wan : Interface := ⟨"wan", ⟨2, 0, 0, 0, 0, 2⟩, ⟨10, 0, 1, 1⟩⟩
    let gateway : Interface := ⟨"wan", ⟨2, 0, 0, 0, 0, 3⟩, ⟨10, 0, 1, 9⟩⟩
    let route : Route := ⟨⟨10, 2, 0, 0⟩, gateway.address, ⟨255, 255, 0, 0⟩, "wan"⟩
    let routes : RoutingTable := ⟨[route], List.pairwise_singleton _ _⟩
    let router : Router := ⟨⟨[lan, wan], by decide⟩, routes, {}⟩
    let environment : Environment := ⟨fun _ _ => none, fun _ => 0⟩
    let frameTo := fun (host : Ipv4Address) =>
      EthernetFrame.assemble lan.mac ⟨2, 0, 0, 0, 0, 7⟩ EthernetFrame.ipv4Type
        ((⟨⟨10, 0, 0, 7⟩, host, 17, 64, 0, 0⟩ : Ipv4Header).attach [])
    let state :=
      router.run .initial [(environment, .arrival "lan" (frameTo ⟨10, 2, 3, 4⟩))]
    let datagram : RouterEvent := .arrival "lan" (frameTo ⟨10, 2, 9, 9⟩)
    let answer : RouterEvent :=
      .arrival "wan" (gateway.arpReplyTo (arpRequest wan gateway.address)).frame
    build [lan, wan] routes {} = .ok router ∧
    (state.pending.framesFor gateway.address).length = 1 ∧
    ∀ order : List (Environment × RouterEvent),
      (order.map Prod.snd).Perm [datagram, answer] →
      ((router.turns state order).flatMap (fun outcome => outcome.1.datagrams)).length = 2 ∧
      (router.run state order).pending.find? gateway.address = none := by
  intro lan wan gateway route routes router environment frameTo state datagram answer
  have built : build [lan, wan] routes {} = .ok router := rfl
  have heard : router.heard? answer =
      some (arpReply gateway (arpRequest wan gateway.address)) := by decide +kernel
  have senders : router.senders [answer] = [gateway.address] := by decide +kernel
  have waiting : (state.pending.framesForAny [gateway.address]).length = 1 := by decide +kernel
  have forwardable : router.Forwardable "lan" (frameTo ⟨10, 2, 9, 9⟩)
      ⟨(frameTo ⟨10, 2, 9, 9⟩).drop EthernetFrame.headerLength⟩ route := by
    refine ⟨⟨by decide +kernel, by decide +kernel, ?_⟩, by decide +kernel, by decide +kernel,
      by decide +kernel, ?_, by decide +kernel, ?_⟩
    · intro arrival found
      cases found
      exact Or.inl (by decide +kernel)
    · intro name origin
      cases origin
      exact ⟨by decide +kernel, by decide +kernel, lan, rfl⟩
    · intro own
      cases own
  obtain ⟨copies, released, copied, releasedAll, everyOrder⟩ :=
    datagrams_forwarded_once built [(environment, .arrival "lan" (frameTo ⟨10, 2, 3, 4⟩))]
      [("lan", frameTo ⟨10, 2, 9, 9⟩)] [answer] (fun _ => gateway.mac)
      (by
        intro other present
        rw [List.mem_singleton.mp present]
        exact ⟨_, route, forwardable, by decide +kernel, by rw [senders]; decide +kernel⟩)
      (by
        intro reply replied
        rw [List.mem_singleton.mp replied]
        exact ⟨_, heard, rfl⟩)
  refine ⟨built, by decide +kernel, ?_⟩
  intro order permuted
  obtain ⟨handed, noneLeft⟩ := everyOrder order permuted
  rw [senders] at noneLeft releasedAll
  refine ⟨?_, ?_⟩
  · have oneCopy : copies.length = 1 := copied.length_eq.symm
    have oneReleased : released.length = 1 := releasedAll.length_eq.symm.trans waiting
    rw [handed.length_eq, List.length_append, oneCopy, oneReleased]
  · rw [PendingRequests.find?_eq_none_iff]
    intro request member towards
    exact noneLeft request member (List.mem_singleton.mpr towards)

end Router

end Ipv4Router
