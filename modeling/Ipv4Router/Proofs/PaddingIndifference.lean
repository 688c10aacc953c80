import Ipv4Router.Proofs.DatagramReadings
import Ipv4Router.Proofs.LinkIndifference
import Mathlib.Data.List.Forall2

/-!
# Padding and hardware addresses

Frames that hold the same datagram are worth the same to a router.  Where they come from,
whether they were sent to the router alone or to all, and what stands behind the datagram
makes no difference to what the router reports, to the frames it hands over and to what it
remembers, apart from the frames that wait, which are kept as they came.

The proof carries a relation through two runs.  Two states are equivalent if they differ
at most in forwarded frames that wait, and these hold the same datagrams.  Decisions about
equivalent frames are equivalent, equivalent datagrams complete to the same frame, and the
operations on pending requests look at no frame.  So every part of the router keeps turns
equivalent.
-/

namespace Ipv4Router

/-- Two frames of one type that hold the same datagram.  Their hardware addresses may
differ, and so may what stands behind the datagram. -/
structure SameDatagram (first second : Octets) : Prop where
  payloadType : (EthernetFrame.mk first).payloadType = (EthernetFrame.mk second).payloadType
  packets : ∃ packet other, Ipv4Packet.ofFrame first = .ok packet ∧
    Ipv4Packet.ofFrame second = .ok other ∧ packet.datagram = other.datagram

/-- Two frames that are the same, or are forwarded from one interface and hold the same
datagram. -/
inductive DatagramFrame.Equivalent : DatagramFrame → DatagramFrame → Prop
  | refl (frame : DatagramFrame) : Equivalent frame frame
  | forwarded {first second : Octets} (name : String) (same : SameDatagram first second) :
      Equivalent ⟨first, .forwarded name⟩ ⟨second, .forwarded name⟩

structure Outbound.Equivalent (first second : Outbound) : Prop where
  egress : first.egress = second.egress
  nextHop : first.nextHop = second.nextHop
  frame : first.frame.Equivalent second.frame

structure PendingRequest.Equivalent (first second : PendingRequest) : Prop where
  target : first.target = second.target
  interface : first.interface = second.interface
  frames : List.Forall₂ DatagramFrame.Equivalent first.frames second.frames
  attempts : first.attempts = second.attempts
  lastSent : first.lastSent = second.lastSent

/-- Two states that differ at most in frames that wait, and these are equivalent. -/
structure RouterState.Equivalent (first second : RouterState) : Prop where
  now : first.now = second.now
  neighbors : first.neighbors = second.neighbors
  pending : List.Forall₂ PendingRequest.Equivalent first.pending second.pending

/-- Two turns in equivalent states that have done equally much and have handed over the
same frames, of which the link took the same. -/
structure Turn.Equivalent (first second : Turn) : Prop where
  state : first.state.Equivalent second.state
  length : first.journal.length = second.journal.length
  handedOver : first.handedOver = second.handedOver
  sent : first.sent = second.sent

structure OutcomesEquivalent (first second : Turn × Except RouterError Unit) : Prop where
  turn : first.1.Equivalent second.1
  result : first.2 = second.2

/-- Two decisions that refuse for one reason or lead to equivalent datagrams. -/
inductive DecisionsEquivalent :
    Except RouterError Outbound → Except RouterError Outbound → Prop
  | refused (error : RouterError) : DecisionsEquivalent (.error error) (.error error)
  | decided {first second : Outbound} (equivalent : first.Equivalent second) :
      DecisionsEquivalent (.ok first) (.ok second)

namespace Router

/-- Two events that are the same, or arrivals on one interface of admissible frames that
hold the same datagram or the same ARP packet. -/
inductive EventsEquivalent (router : Router) : RouterEvent → RouterEvent → Prop
  | same (event : RouterEvent) : EventsEquivalent router event event
  | datagram {name : String} {first second : Octets}
      (firstAdmissible : router.Admissible name first)
      (secondAdmissible : router.Admissible name second)
      (labelled : (EthernetFrame.mk first).payloadType = EthernetFrame.ipv4Type)
      (same : SameDatagram first second) :
      EventsEquivalent router (.arrival name first) (.arrival name second)
  | arp {name : String} {first second : Octets}
      (firstAdmissible : router.Admissible name first)
      (secondAdmissible : router.Admissible name second)
      (firstLabelled : (EthernetFrame.mk first).payloadType = EthernetFrame.arpType)
      (secondLabelled : (EthernetFrame.mk second).payloadType = EthernetFrame.arpType)
      (same : (EthernetFrame.mk first).payload.take ArpPacket.length =
        (EthernetFrame.mk second).payload.take ArpPacket.length) :
      EventsEquivalent router (.arrival name first) (.arrival name second)

end Router

/-- An ARP packet is read from its first octets. -/
theorem ArpPacket.ofOctets_take (octets : Octets) :
    ofOctets (octets.take length) = ofOctets octets := by
  by_cases long : octets.length < length
  · rw [List.take_of_length_le (Nat.le_of_lt long)]
  · have octetEq : ∀ {offset}, offset < length →
        Octets.octetAt (octets.take length) offset = octets.octetAt offset :=
      fun inside => Octets.octetAt_take inside
    have cut : (octets.take length).length = length := by
      rw [List.length_take, Nat.min_eq_left (Nat.le_of_not_lt long)]
    have start : (octets.take length).take 6 = octets.take 6 := by
      rw [List.take_take, Nat.min_eq_left (by decide)]
    have operation : Octets.wordAt (octets.take length) 6 = octets.wordAt 6 := by
      rw [Octets.wordAt, Octets.wordAt, octetEq (by decide), octetEq (by decide)]
    have macs : ∀ offset, offset + 6 ≤ length →
        MacAddress.readAt (octets.take length) offset = MacAddress.readAt octets offset :=
      fun offset inside => MacAddress.readAt_congr fun step small => octetEq (by omega)
    have addresses : ∀ offset, offset + 4 ≤ length →
        Ipv4Address.readAt (octets.take length) offset = Ipv4Address.readAt octets offset :=
      fun offset inside => Ipv4Address.readAt_congr fun step small => octetEq (by omega)
    rw [ofOctets, ofOctets, cut, start, operation, if_neg long, if_neg (Nat.lt_irrefl _),
      macs 8 (by decide), macs 18 (by decide), addresses 14 (by decide),
      addresses 24 (by decide)]

theorem Outbound.Equivalent.refl (outbound : Outbound) : outbound.Equivalent outbound :=
  ⟨rfl, rfl, .refl _⟩

theorem DecisionsEquivalent.refl (decision : Except RouterError Outbound) :
    DecisionsEquivalent decision decision := by
  cases decision with
  | error error => exact .refused error
  | ok outbound => exact .decided (Outbound.Equivalent.refl outbound)

/-- What a packet in a frame reads, if it ignores padding, is the same for frames with the
same datagram. -/
theorem SameDatagram.reading_eq {first second : Octets} (same : SameDatagram first second) :
    ∃ packet other, Ipv4Packet.ofFrame first = .ok packet ∧
      Ipv4Packet.ofFrame second = .ok other ∧
      ∀ {Value : Type} {reading : Ipv4Packet → Value}, Ipv4Packet.IgnoresPadding reading →
        reading packet = reading other := by
  obtain ⟨packet, other, readable, otherReadable, sameDatagram⟩ := same.packets
  exact ⟨packet, other, readable, otherReadable, fun ignores => ignores.eq
    (Ipv4Packet.read_of_ofFrame readable).1 (Ipv4Packet.read_of_ofFrame otherReadable).1
    sameDatagram⟩

theorem Outbound.Equivalent.complete_eq {first second : Outbound}
    (equivalent : first.Equivalent second) (mac : MacAddress) :
    first.complete mac = second.complete mac := by
  obtain ⟨egress, nextHop, frame⟩ := first
  obtain ⟨otherEgress, otherHop, other⟩ := second
  obtain ⟨rfl, rfl, frames⟩ := equivalent
  cases frames with
  | refl => rfl
  | @forwarded octets otherOctets name same =>
      obtain ⟨packet, otherPacket, readable, otherReadable, sameDatagram⟩ := same.packets
      obtain ⟨-, -, read⟩ := Ipv4Packet.ofFrame_eq_ok_iff.mp readable
      obtain ⟨-, -, otherRead⟩ := Ipv4Packet.ofFrame_eq_ok_iff.mp otherReadable
      obtain ⟨-, -, -, -, -, rfl⟩ := Ipv4Packet.ofOctets_eq_ok_iff.mp read
      obtain ⟨-, -, -, -, -, rfl⟩ := Ipv4Packet.ofOctets_eq_ok_iff.mp otherRead
      simp only [Outbound.complete, EthernetFrame.payload, same.payloadType, sameDatagram]

namespace Router

variable {router : Router} {identification : UInt16}

theorem sendAlong_equivalent {frame other : DatagramFrame} (frames : frame.Equivalent other)
    (route : Route) (destination : Ipv4Address) :
    DecisionsEquivalent (router.sendAlong route destination frame)
      (router.sendAlong route destination other) := by
  unfold sendAlong
  split
  · exact .refused _
  · exact .decided ⟨rfl, rfl, frames⟩

theorem dispatch_equivalent {first second : Octets} (same : SameDatagram first second)
    (arrival : Interface) :
    DecisionsEquivalent (router.dispatch identification arrival first)
      (router.dispatch identification arrival second) := by
  obtain ⟨packet, other, readable, otherReadable, reading⟩ := same.reading_eq
  have reports : ∀ message,
      router.reportError identification arrival packet message =
        router.reportError identification arrival other message :=
    fun message => reading (ignoresPadding_reportError router identification arrival message)
  simp only [dispatch, readable, otherReadable, reports,
    reading Ipv4Packet.ignoresPadding_verifyChecksum,
    reading Ipv4Packet.ignoresPadding_destination,
    reading Ipv4Packet.ignoresPadding_timeToLive,
    reading (ignoresPadding_answer router identification arrival)]
  split
  · exact .refused _
  split
  · exact .refl _
  split
  · exact .refl _
  split
  · exact .refl _
  · exact sendAlong_equivalent (.forwarded arrival.name same) _ _

theorem dispatchAgain_equivalent {frame other : DatagramFrame}
    (frames : frame.Equivalent other) :
    DecisionsEquivalent (router.dispatchAgain identification frame)
      (router.dispatchAgain identification other) := by
  cases frames with
  | refl => exact .refl _
  | forwarded name same =>
      simp only [dispatchAgain]
      split
      · exact .refused _
      · exact dispatch_equivalent same _

theorem reportAbandoned_equivalent {frame other : DatagramFrame}
    (frames : frame.Equivalent other) :
    DecisionsEquivalent (router.reportAbandoned identification frame)
      (router.reportAbandoned identification other) := by
  cases frames with
  | refl => exact .refl _
  | forwarded name same =>
      obtain ⟨packet, otherPacket, readable, otherReadable, reading⟩ := same.reading_eq
      simp only [reportAbandoned, readable, otherReadable]
      split
      · exact .refused _
      · next arrival _ =>
        rw [reading (ignoresPadding_reportError router identification arrival .hostUnreachable)]
        exact .refl _

end Router

namespace PendingRequests

variable {first second : PendingRequests} {target : Ipv4Address}

theorem enqueue_equivalent
    (equivalent : List.Forall₂ PendingRequest.Equivalent first second) (now : Nat)
    (target : Ipv4Address) {frame other : DatagramFrame} (frames : frame.Equivalent other)
    (interface : String) :
    (first.enqueue now target frame interface).1 =
        (second.enqueue now target other interface).1 ∧
      List.Forall₂ PendingRequest.Equivalent (first.enqueue now target frame interface).2
        (second.enqueue now target other interface).2 := by
  induction equivalent with
  | nil => exact ⟨rfl, .cons ⟨rfl, rfl, .cons frames .nil, rfl, rfl⟩ .nil⟩
  | @cons request otherRequest rest otherRest head later ih =>
      simp only [enqueue, head.target]
      split
      · exact ⟨rfl, .cons ⟨rfl, head.interface,
          List.rel_append head.frames (.cons frames .nil), head.attempts, head.lastSent⟩ later⟩
      · exact ⟨ih.1, .cons head ih.2⟩

theorem framesFor_equivalent
    (equivalent : List.Forall₂ PendingRequest.Equivalent first second) :
    List.Forall₂ DatagramFrame.Equivalent (first.framesFor target)
      (second.framesFor target) := by
  induction equivalent with
  | nil => exact .nil
  | @cons request otherRequest rest otherRest head _ ih =>
      by_cases same : request.target = target
      · have otherSame : otherRequest.target = target := head.target ▸ same
        subst same
        rw [framesFor, framesFor, find?_cons_self, ← otherSame, find?_cons_self]
        exact head.frames
      · have otherDistinct : otherRequest.target ≠ target := head.target ▸ same
        rw [framesFor, framesFor, find?_cons_of_ne same, find?_cons_of_ne otherDistinct]
        exact ih

theorem resolve_equivalent
    (equivalent : List.Forall₂ PendingRequest.Equivalent first second) :
    List.Forall₂ PendingRequest.Equivalent (first.resolve target).2
      (second.resolve target).2 := by
  simp only [resolve]
  induction equivalent with
  | nil => exact .nil
  | cons head later ih =>
      simp only [List.eraseP_cons, head.target, Bool.cond_decide]
      split
      · exact later
      · exact .cons head ih

/-- A poll decides by the age of a request and the number of its attempts. -/
theorem poll_equivalent (equivalent : List.Forall₂ PendingRequest.Equivalent first second)
    (schedule : RetransmitSchedule) (now : Nat) :
    (first.poll schedule now).retransmit = (second.poll schedule now).retransmit ∧
      List.Forall₂ PendingRequest.Equivalent (first.poll schedule now).failed
        (second.poll schedule now).failed ∧
      List.Forall₂ PendingRequest.Equivalent (first.poll schedule now).remaining
        (second.poll schedule now).remaining := by
  induction equivalent with
  | nil => exact ⟨rfl, .nil, .nil⟩
  | @cons request other rest otherRest head _ ih =>
      obtain ⟨retransmit, failed, remaining⟩ := ih
      have sameAge : request.isDue schedule now = other.isDue schedule now := by
        rw [PendingRequest.isDue, PendingRequest.isDue, head.lastSent]
      have sameEffort : request.isExhausted schedule = other.isExhausted schedule := by
        rw [PendingRequest.isExhausted, PendingRequest.isExhausted, head.attempts]
      have sameSolicitation : request.solicitation = other.solicitation := by
        rw [PendingRequest.solicitation, PendingRequest.solicitation, head.target, head.interface]
      have resent : (request.resent now).Equivalent (other.resent now) :=
        ⟨head.target, head.interface, head.frames, congrArg (· + 1) head.attempts, rfl⟩
      by_cases due : other.isDue schedule now
      · by_cases exhausted : other.isExhausted schedule
        · simp only [poll, sameAge, sameEffort, due, exhausted, if_true]
          exact ⟨retransmit, .cons head failed, remaining⟩
        · simp only [poll, sameAge, sameEffort, due, exhausted, if_true, if_false,
            Bool.false_eq_true, sameSolicitation, retransmit, true_and]
          exact ⟨failed, .cons resent remaining⟩
      · simp only [poll, sameAge, due, if_false, Bool.false_eq_true]
        exact ⟨retransmit, failed, .cons head remaining⟩

end PendingRequests

namespace Turn

variable {first second : Turn}

theorem Equivalent.record (equivalent : first.Equivalent second) {entry other : JournalEntry}
    (handed : entry.handedOver? = other.handedOver?) (taken : entry.taken? = other.taken?) :
    (first.record entry).Equivalent (second.record other) where
  state := equivalent.state
  length := by simp only [Turn.record, List.length_append, equivalent.length, List.length_cons]
  handedOver := by rw [handedOver_record, handedOver_record, equivalent.handedOver, handed]
  sent := by rw [sent_record, sent_record, equivalent.sent, taken]

theorem Equivalent.goOn (equivalent : first.Equivalent second) {state other : RouterState}
    (states : state.Equivalent other) :
    Turn.Equivalent { first with state } { second with state := other } :=
  ⟨states, equivalent.length, equivalent.handedOver, equivalent.sent⟩

theorem Equivalent.with (equivalent : first.Equivalent second)
    (result : Except RouterError Unit) : OutcomesEquivalent (first, result) (second, result) :=
  ⟨equivalent, rfl⟩

theorem Equivalent.transmit (equivalent : first.Equivalent second)
    (environment : Environment) (transmission : Transmission)
    (datagram other : Option Outbound) :
    OutcomesEquivalent (first.transmit environment transmission datagram)
      (second.transmit environment transmission other) := by
  simp only [Turn.transmit, equivalent.length]
  refine ⟨equivalent.record rfl ?_, rfl⟩
  cases environment.link second.journal.length transmission <;> rfl

theorem Equivalent.sendArp (equivalent : first.Equivalent second)
    (environment : Environment) (interface : Interface) (destination : MacAddress)
    (packet : ArpPacket) :
    OutcomesEquivalent (first.sendArp environment interface destination packet)
      (second.sendArp environment interface destination packet) := by
  rw [sendArp_eq, sendArp_eq]
  exact equivalent.transmit environment _ none none

end Turn

namespace Router

variable {router : Router} {environment : Environment} {first second : Turn}

theorem solicit_equivalent (equivalent : first.Equivalent second)
    (solicitation : Solicitation) :
    OutcomesEquivalent (router.solicit environment first solicitation)
      (router.solicit environment second solicitation) := by
  unfold solicit
  split
  · exact equivalent.with _
  · exact equivalent.sendArp environment _ _ _

theorem output_equivalent (equivalent : first.Equivalent second) {outbound other : Outbound}
    (outbounds : outbound.Equivalent other) :
    OutcomesEquivalent (router.output environment first outbound)
      (router.output environment second other) := by
  obtain ⟨now, neighbors, pending⟩ := equivalent.state
  obtain ⟨solicitations, extended⟩ := PendingRequests.enqueue_equivalent pending
    second.state.now other.nextHop outbounds.frame other.egress.name
  simp only [output, now, neighbors, outbounds.nextHop, outbounds.egress, solicitations]
  split
  · rw [outbounds.complete_eq]
    exact equivalent.transmit environment _ _ _
  · split
    · refine Turn.Equivalent.with (equivalent.goOn ?_) _
      exact ⟨rfl, rfl, extended⟩
    · refine solicit_equivalent (equivalent.goOn ?_) _
      exact ⟨rfl, rfl, extended⟩

theorem submitAs_equivalent (equivalent : first.Equivalent second)
    {note otherNote : Outbound → JournalEntry}
    {decide otherDecide : UInt16 → Except RouterError Outbound}
    (silent : ∀ outbound other, (note outbound).handedOver? = (otherNote other).handedOver? ∧
      (note outbound).taken? = (otherNote other).taken?)
    (decisions : ∀ identification,
      DecisionsEquivalent (decide identification) (otherDecide identification)) :
    OutcomesEquivalent (router.submitAs environment first note decide)
      (router.submitAs environment second otherNote otherDecide) := by
  have same := decisions (environment.identification second.journal.length)
  simp only [submitAs, equivalent.length]
  generalize decide (environment.identification second.journal.length) = decision at same ⊢
  generalize otherDecide (environment.identification second.journal.length) = other at same ⊢
  cases same with
  | refused error => exact equivalent.with _
  | decided outbounds =>
      exact output_equivalent (equivalent.record (silent _ _).1 (silent _ _).2) outbounds

theorem release_equivalent (equivalent : first.Equivalent second)
    {frame other : DatagramFrame} (frames : frame.Equivalent other) :
    (router.release environment first frame).Equivalent
      (router.release environment second other) := by
  unfold release
  refine (submitAs_equivalent equivalent ?_ ?_).turn
  · exact fun _ _ => ⟨rfl, rfl⟩
  · exact fun _ => dispatchAgain_equivalent frames

theorem learn_equivalent (equivalent : first.Equivalent second) (address : Ipv4Address)
    (mac : MacAddress) :
    (router.learn environment first address mac).Equivalent
      (router.learn environment second address mac) := by
  obtain ⟨now, neighbors, pending⟩ := equivalent.state
  rw [learn_eq, learn_eq]
  refine List.rel_foldl ?_ (equivalent.goOn ?_) (PendingRequests.framesFor_equivalent pending)
  · exact fun one another turns frame other frames => release_equivalent turns frames
  · refine ⟨now, ?_, PendingRequests.resolve_equivalent pending⟩
    simp only [RouterState.learn, now, neighbors]

theorem failRequest_equivalent (equivalent : first.Equivalent second)
    {request other : PendingRequest} (requests : request.Equivalent other) :
    (router.failRequest environment first request).Equivalent
      (router.failRequest environment second other) := by
  unfold failRequest
  refine List.rel_foldl ?_ equivalent requests.frames
  intro one another turns frame otherFrame frames
  have recorded : (one.record (.abandoned request.target frame)).Equivalent
      (another.record (.abandoned other.target otherFrame)) := turns.record rfl rfl
  unfold abandon submit
  refine (submitAs_equivalent recorded ?_ ?_).turn
  · exact fun _ _ => ⟨rfl, rfl⟩
  · exact fun _ => reportAbandoned_equivalent frames

theorem sweep_equivalent (equivalent : first.Equivalent second) :
    (router.sweep environment first).Equivalent (router.sweep environment second) := by
  obtain ⟨now, neighbors, pending⟩ := equivalent.state
  obtain ⟨retransmit, failed, remaining⟩ :=
    PendingRequests.poll_equivalent pending router.schedule second.state.now
  simp only [sweep, now, neighbors, retransmit]
  refine List.rel_foldl ?_ (List.foldl_rel (equivalent.goOn ?_) ?_) failed
  · exact fun one another turns request other requests => failRequest_equivalent turns requests
  · exact ⟨rfl, rfl, remaining⟩
  · exact fun solicitation _ one another turns => (solicit_equivalent turns solicitation).turn

theorem receiveArp_equivalent (equivalent : first.Equivalent second) (arrival : Interface)
    {payload other : Octets} (same : ArpPacket.ofOctets payload = ArpPacket.ofOctets other) :
    OutcomesEquivalent (router.receiveArp environment first arrival payload)
      (router.receiveArp environment second arrival other) := by
  unfold receiveArp
  rw [same]
  split
  · exact equivalent.with _
  split
  · split
    · exact equivalent.sendArp environment _ _ _
    · exact equivalent.with _
  · exact (learn_equivalent equivalent _ _).with _

theorem receiveDatagram_equivalent (equivalent : first.Equivalent second)
    (arrival : Interface) {octets other : Octets}
    (decisions : ∀ identification,
      DecisionsEquivalent (router.dispatch identification arrival octets)
        (router.dispatch identification arrival other)) :
    OutcomesEquivalent (router.receiveDatagram environment first arrival octets)
      (router.receiveDatagram environment second arrival other) := by
  unfold receiveDatagram submit
  refine submitAs_equivalent equivalent ?_ decisions
  exact fun _ _ => ⟨rfl, rfl⟩

theorem receive_same (equivalent : first.Equivalent second) (name : String)
    (octets : Octets) :
    OutcomesEquivalent (router.receive environment first name octets)
      (router.receive environment second name octets) := by
  unfold receive
  split
  · exact equivalent.with _
  split
  · exact equivalent.with _
  split
  · exact equivalent.with _
  split
  · exact receiveArp_equivalent equivalent _ rfl
  split
  · exact receiveDatagram_equivalent equivalent _ (fun _ => .refl _)
  · exact equivalent.with _

/-- Equivalent events have equivalent outcomes. -/
theorem step_equivalent {state other : RouterState} (states : state.Equivalent other)
    {event otherEvent : RouterEvent} (events : router.EventsEquivalent event otherEvent) :
    OutcomesEquivalent (router.step environment state event)
      (router.step environment other otherEvent) := by
  have start : (Turn.start state).Equivalent (Turn.start other) := ⟨states, rfl, rfl, rfl⟩
  cases events with
  | same =>
      cases event with
      | arrival name octets => exact receive_same start name octets
      | advance duration =>
          refine Turn.Equivalent.with (start.goOn ?_) _
          exact ⟨congrArg (· + duration) states.now, states.neighbors, states.pending⟩
      | sweep => exact (sweep_equivalent start).with _
  | @datagram name octets others admissible otherAdmissible labelled same =>
      cases found : router.interfaces.byName? name with
      | none =>
          simp only [step, receive, found]
          exact start.with _
      | some arrival =>
          have notArp : EthernetFrame.ipv4Type ≠ EthernetFrame.arpType := by decide
          simp only [step, receive_of_admissible found admissible,
            receive_of_admissible found otherAdmissible, ← same.payloadType, labelled,
            if_neg notArp, if_true]
          exact receiveDatagram_equivalent start arrival (fun _ => dispatch_equivalent same _)
  | @arp name octets others admissible otherAdmissible labelled otherLabelled same =>
      cases found : router.interfaces.byName? name with
      | none =>
          simp only [step, receive, found]
          exact start.with _
      | some arrival =>
          simp only [step, receive_of_admissible found admissible,
            receive_of_admissible found otherAdmissible, labelled, otherLabelled, if_true]
          apply receiveArp_equivalent start
          rw [← ArpPacket.ofOctets_take, same, ArpPacket.ofOctets_take]

theorem turns_equivalent {state other : RouterState} (states : state.Equivalent other)
    {first second : List (Environment × RouterEvent)}
    (equivalent : List.Forall₂ (fun one other =>
      one.1 = other.1 ∧ router.EventsEquivalent one.2 other.2) first second) :
    List.Forall₂ OutcomesEquivalent (router.turns state first) (router.turns other second) := by
  induction equivalent generalizing state other with
  | nil => exact .nil
  | @cons one another rest otherRest head _ ih =>
      obtain ⟨environment, event⟩ := one
      obtain ⟨otherEnvironment, otherEvent⟩ := another
      obtain ⟨rfl, events⟩ := head
      have outcomes : OutcomesEquivalent (router.step environment state event)
          (router.step environment other otherEvent) := step_equivalent states events
      exact .cons outcomes (ih outcomes.turn.state)

theorem initial_equivalent : RouterState.initial.Equivalent .initial :=
  ⟨rfl, rfl, .nil⟩

/-- Runs in the same environments, with equivalent events, report the same results and hand over
the same frames, event by event, of which the link takes the same.  They leave the same
neighbours and, up to what stands behind the datagrams and before them, the same pending
requests. -/
theorem padding_indifference (router : Router)
    {first second : List (Environment × RouterEvent)}
    (equivalent : List.Forall₂ (fun one other =>
      one.1 = other.1 ∧ router.EventsEquivalent one.2 other.2) first second) :
    List.Forall₂ (fun one other =>
        one.2 = other.2 ∧ one.1.handedOver = other.1.handedOver ∧
          one.1.sent = other.1.sent ∧ one.1.state.Equivalent other.1.state)
      (router.turns .initial first) (router.turns .initial second) := by
  refine (turns_equivalent initial_equivalent equivalent).imp ?_
  intro one other outcomes
  exact ⟨outcomes.result, outcomes.turn.handedOver, outcomes.turn.sent, outcomes.turn.state⟩

/-- A datagram waits for its gateway and is released by an ARP reply.  In one run both come
to the interface alone and without padding, in the other both come to all, from elsewhere
and with padding.  So different frames wait, but the same frame is released. -/
theorem padding_indifference_gateway :
    let lan : Interface := ⟨"lan", ⟨2, 0, 0, 0, 0, 1⟩, ⟨10, 0, 0, 1⟩⟩
    let wan : Interface := ⟨"wan", ⟨2, 0, 0, 0, 0, 2⟩, ⟨10, 0, 1, 1⟩⟩
    let gateway : Interface := ⟨"wan", ⟨2, 0, 0, 0, 0, 9⟩, ⟨10, 0, 1, 9⟩⟩
    let route : Route := ⟨⟨10, 2, 0, 0⟩, gateway.address, ⟨255, 255, 0, 0⟩, "wan"⟩
    let routes : RoutingTable := ⟨[route], List.pairwise_singleton _ _⟩
    let router : Router := ⟨⟨[lan, wan], by decide⟩, routes, {}⟩
    let environment : Environment := ⟨fun _ _ => none, fun _ => 0⟩
    let datagram := Ipv4Header.attach ⟨⟨10, 0, 0, 7⟩, ⟨10, 2, 3, 4⟩, 17, 64, 0, 0⟩ []
    let answer := (arpReply gateway (arpRequest wan gateway.address)).toOctets
    let events := fun (toLan toWan source : MacAddress) (padding : Octets) =>
      [(environment, RouterEvent.arrival "lan" (EthernetFrame.assemble toLan source
        EthernetFrame.ipv4Type (datagram ++ padding))),
      (environment, RouterEvent.arrival "wan" (EthernetFrame.assemble toWan source
        EthernetFrame.arpType (answer ++ padding)))]
    let bare := events lan.mac wan.mac gateway.mac []
    let padded := events MacAddress.broadcast MacAddress.broadcast lan.mac [1, 2, 3]
    router.run .initial (bare.take 1) ≠ router.run .initial (padded.take 1) ∧
    ((router.turns .initial bare).map (fun outcome => outcome.1.handedOver.length)) = [1, 1] ∧
    List.Forall₂ (fun one other =>
        one.2 = other.2 ∧ one.1.handedOver = other.1.handedOver ∧
          one.1.sent = other.1.sent ∧ one.1.state.Equivalent other.1.state)
      (router.turns .initial bare) (router.turns .initial padded) := by
  intro lan wan gateway route routes router environment datagram answer events bare padded
  have equivalent : List.Forall₂ (fun one other =>
      one.1 = other.1 ∧ router.EventsEquivalent one.2 other.2) bare padded := by
    have same : SameDatagram
        (EthernetFrame.assemble lan.mac gateway.mac EthernetFrame.ipv4Type (datagram ++ []))
        (EthernetFrame.assemble MacAddress.broadcast lan.mac EthernetFrame.ipv4Type
          (datagram ++ [1, 2, 3])) :=
      ⟨by decide +kernel, ⟨datagram⟩, ⟨datagram ++ [1, 2, 3]⟩, by decide +kernel,
        by decide +kernel, by decide +kernel⟩
    refine .cons ⟨rfl, .datagram ⟨by decide, by decide, ?_⟩ ⟨by decide, by decide, ?_⟩
      (by decide +kernel) same⟩ (.cons ⟨rfl, .arp ⟨by decide, by decide, ?_⟩
        ⟨by decide, by decide, ?_⟩ (by decide +kernel) (by decide +kernel)
          (by decide +kernel)⟩ .nil)
    all_goals
      intro arrival found
      cases found
      decide +kernel
  exact ⟨by decide +kernel, by decide +kernel, padding_indifference router equivalent⟩

end Router

end Ipv4Router
