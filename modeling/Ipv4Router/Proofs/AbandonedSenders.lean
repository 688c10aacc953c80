import Ipv4Router.Proofs.DatagramLedger
import Ipv4Router.Proofs.OriginatedMessages
import Ipv4Router.Proofs.SweptRequests
import Ipv4Router.Proofs.TransparentWaiting

/-!
# Senders of abandoned frames

When a request has failed, each of the frames that waited for it is given up.  Whoever sent a
frame that was to be forwarded is told once that its host is unreachable, in a datagram that is
routed like any other of the router's own.  It may have to wait itself, perhaps behind a new
request for the very address that has just been given up.

What one frame leads to therefore depends on nothing but the frame and the addresses that are
known after the sweep has removed outdated neighbours.  Telling the senders does not change
these, and a refusal of the link is only noted.
-/

namespace Ipv4Router

/-- What an ICMP error quotes of a packet: its header, options included, and up to eight octets
of its payload. -/
def Ipv4Packet.quotation (packet : Ipv4Packet) : Octets :=
  packet.header ++ packet.payload.take 8

theorem Ipv4Packet.length_quotation_le (packet : Ipv4Packet) :
    packet.quotation.length ≤ Router.maximumDataLength := by
  have headerBound := packet.headerLength_le
  have quoted : packet.quotation.length ≤ 60 + 8 := by
    rw [quotation, header, List.length_append, List.length_take, List.length_take]
    omega
  exact Nat.le_trans quoted (by decide)

namespace Router

/-- A turn has grown by some entries.  The datagrams among them that were accepted for unknown
next hops now wait, and nothing else has changed. -/
structure GrowsBy (router : Router) (turn : Turn) (entries : List JournalEntry) (last : Turn) :
    Prop where
  journal : last.journal = turn.journal ++ entries
  neighbors : last.state.neighbors = turn.state.neighbors
  now : last.state.now = turn.state.now
  waiting : ∀ nextHop, last.state.pending.framesFor nextHop =
    turn.state.pending.framesFor nextHop ++
      if (router.hardwareAddress? turn.state nextHop).isSome then []
      else entries.flatMap (JournalEntry.acceptedFor nextHop)

variable {router : Router} {environment : Environment} {turn between last : Turn}
  {entries later : List JournalEntry}

theorem GrowsBy.hardwareAddress?_eq (grows : router.GrowsBy turn entries last)
    (address : Ipv4Address) :
    router.hardwareAddress? last.state address = router.hardwareAddress? turn.state address := by
  rw [hardwareAddress?, grows.neighbors, grows.now, hardwareAddress?]

theorem GrowsBy.refl (turn : Turn) : router.GrowsBy turn [] turn where
  journal := (List.append_nil _).symm
  neighbors := rfl
  now := rfl
  waiting := by simp

theorem GrowsBy.append (first : router.GrowsBy turn entries between)
    (second : router.GrowsBy between later last) :
    router.GrowsBy turn (entries ++ later) last where
  journal := by rw [second.journal, first.journal, List.append_assoc]
  neighbors := second.neighbors.trans first.neighbors
  now := second.now.trans first.now
  waiting := by
    intro nextHop
    rw [second.waiting, first.waiting, first.hardwareAddress?_eq, List.append_assoc,
      List.flatMap_append]
    split <;> rfl

theorem growsBy_record {entry : JournalEntry} (silent : ∀ nextHop, entry.acceptedFor nextHop = [])
    (turn : Turn) : router.GrowsBy turn [entry] (turn.record entry) where
  journal := rfl
  neighbors := rfl
  now := rfl
  waiting := by
    intro nextHop
    rw [List.flatMap_singleton, silent, ite_self, List.append_nil]
    rfl

section Output

variable {outbound : Outbound}

theorem growsBy_output_of_known {mac : MacAddress}
    (known : router.hardwareAddress? turn.state outbound.nextHop = some mac) :
    ∃ refusal, router.GrowsBy turn [.accepted outbound,
        .handed ⟨outbound.egress.name, outbound.complete mac⟩ refusal (some outbound)]
      (router.output environment (turn.record (.accepted outbound)) outbound).1 := by
  have stillKnown : router.hardwareAddress? (turn.record (.accepted outbound)).state
      outbound.nextHop = some mac :=
    known
  rw [output_of_known stillKnown]
  refine ⟨_, List.append_assoc _ _ _, rfl, rfl, ?_⟩
  intro nextHop
  by_cases towards : outbound.nextHop = nextHop
  · subst towards
    rw [known, Option.isSome_some, if_pos rfl, List.append_nil]
    rfl
  · simp [JournalEntry.acceptedFor, towards, Turn.transmit, Turn.record]

theorem growsBy_await (unknown : router.hardwareAddress? turn.state outbound.nextHop = none) :
    router.GrowsBy turn [.accepted outbound]
      { turn.record (.accepted outbound) with state := turn.state.await outbound } where
  journal := rfl
  neighbors := rfl
  now := rfl
  waiting := by
    intro nextHop
    rw [framesFor_await, List.flatMap_singleton, JournalEntry.acceptedFor]
    by_cases towards : outbound.nextHop = nextHop
    · subst towards
      rw [unknown]
      rfl
    · rw [if_neg towards, ite_self]

/-- Datagrams for an unknown next hop wait.  The first one to wait brings about an ARP
request. -/
theorem growsBy_output_of_unknown (delivers : router.Delivers outbound)
    (unknown : router.hardwareAddress? turn.state outbound.nextHop = none) :
    ∃ asked, router.GrowsBy turn (.accepted outbound :: asked)
        (router.output environment (turn.record (.accepted outbound)) outbound).1 ∧
      (asked = [] ∨ ∃ refusal,
        asked = [.handed (outbound.egress.arpRequestFor outbound.nextHop) refusal none]) := by
  have stillUnknown : router.hardwareAddress? (turn.record (.accepted outbound)).state
      outbound.nextHop = none :=
    unknown
  have awaits := growsBy_await unknown
  cases found : (turn.record (.accepted outbound)).state.pending.find? outbound.nextHop with
  | some request =>
      rw [output_of_joined stillUnknown found]
      exact ⟨[], awaits, Or.inl rfl⟩
  | none =>
      rw [output_of_opened delivers stillUnknown found]
      refine ⟨[_], awaits.append (growsBy_record ?_ _), Or.inr ⟨_, rfl⟩⟩
      intro nextHop
      rfl

end Output

/-- A datagram tells the source of a frame that its host is unreachable.  It comes from the
address of the interface on which the frame has arrived and quotes the packet in the frame as it
was then. -/
def IsReport (router : Router) (frame : DatagramFrame) (outbound : Outbound) : Prop :=
  ∃ name arrival packet, frame.origin = .forwarded name ∧
    router.interfaces.byName? name = some arrival ∧
    Ipv4Packet.ofFrame frame.octets = .ok packet ∧
    router.Conveys outbound arrival.address packet.source .hostUnreachable packet.quotation

/-- What is noted when a frame is given up, given what is known at that time. -/
inductive Tells (router : Router) (state : RouterState) :
    FrameInHand → List JournalEntry → Prop
  /-- Nobody is told about a frame of the router's own. -/
  | nobody {target : Ipv4Address} {frame : DatagramFrame} (own : frame.origin = .originated) :
      Tells router state ⟨target, frame⟩ [.abandoned target frame]
  /-- There is no way back to the source of the frame. -/
  | unroutable {target : Ipv4Address} {frame : DatagramFrame} {name : String}
      {packet : Ipv4Packet} (foreign : frame.origin = .forwarded name)
      (readable : Ipv4Packet.ofFrame frame.octets = .ok packet)
      (unrouted : router.routes.lookup packet.source = none) :
      Tells router state ⟨target, frame⟩ [.abandoned target frame]
  /-- The report is handed to the link at once. -/
  | atOnce {target : Ipv4Address} {frame : DatagramFrame} {outbound : Outbound}
      {mac : MacAddress} {refusal : Option LinkFailure} (report : router.IsReport frame outbound)
      (known : router.hardwareAddress? state outbound.nextHop = some mac) :
      Tells router state ⟨target, frame⟩ [.abandoned target frame, .accepted outbound,
        .handed ⟨outbound.egress.name, outbound.complete mac⟩ refusal (some outbound)]
  /-- The report waits for the hardware address of its next hop, for which an ARP request may
  be handed to the link. -/
  | later {target : Ipv4Address} {frame : DatagramFrame} {outbound : Outbound}
      {asked : List JournalEntry} (report : router.IsReport frame outbound)
      (unknown : router.hardwareAddress? state outbound.nextHop = none)
      (asks : asked = [] ∨ ∃ refusal,
        asked = [.handed (outbound.egress.arpRequestFor outbound.nextHop) refusal none]) :
      Tells router state ⟨target, frame⟩
        (.abandoned target frame :: .accepted outbound :: asked)

variable {state : RouterState}

theorem reportAbandoned_eq {frame : DatagramFrame} {name : String} {arrival : Interface}
    {packet : Ipv4Packet} (foreign : frame.origin = .forwarded name)
    (found : router.interfaces.byName? name = some arrival)
    (readable : Ipv4Packet.ofFrame frame.octets = .ok packet) (identification : UInt16) :
    router.reportAbandoned identification frame =
      router.originateMessage identification arrival.address packet.source .hostUnreachable
        packet.quotation := by
  simp only [reportAbandoned, foreign, found, readable]
  rfl

/-- When a frame is given up, its sender is told. -/
theorem tells_abandon (connected : router.Connected) (environment : Environment)
    {held : FrameInHand} (deliverable : ∃ egress, router.Delivers ⟨egress, held.target, held.frame⟩)
    (same : ∀ address,
      router.hardwareAddress? turn.state address = router.hardwareAddress? state address) :
    ∃ entries, router.Tells state held entries ∧
      router.GrowsBy turn entries
        (router.abandon environment held.target turn held.frame) := by
  obtain ⟨target, frame⟩ := held
  have noted : router.GrowsBy turn [.abandoned target frame]
      (turn.record (.abandoned target frame)) :=
    growsBy_record (fun _ => rfl) turn
  have stillSame : ∀ address, router.hardwareAddress?
      (turn.record (.abandoned target frame)).state address =
        router.hardwareAddress? state address :=
    same
  rw [abandon]
  cases origin : frame.origin with
  | originated =>
      have ignored : ∀ identification,
          router.reportAbandoned identification frame = .error .ignored := by
        intro identification
        simp only [reportAbandoned, origin]
      refine ⟨_, .nobody origin, ?_⟩
      rw [submit_of_error (ignored _)]
      exact noted
  | forwarded name =>
      obtain ⟨egress, packet, route, admits, -, -⟩ := deliverable
      obtain ⟨-, -, arrival, found⟩ := admits.forwardable name origin
      have decision := reportAbandoned_eq origin found admits.readable
      rcases originateMessage_of_fits connected packet.length_quotation_le with
        ⟨unrouted, refused⟩ | ⟨outbound, conveys, decided⟩
      · refine ⟨_, .unroutable origin admits.readable unrouted, ?_⟩
        rw [submit_of_error ((decision _).trans refused)]
        exact noted
      · have report : router.IsReport frame outbound :=
          ⟨name, arrival, packet, origin, found, admits.readable, conveys⟩
        rw [submit_of_ok ((decision _).trans decided)]
        cases known : router.hardwareAddress? state outbound.nextHop with
        | some mac =>
            obtain ⟨refusal, grows⟩ :=
              growsBy_output_of_known ((stillSame outbound.nextHop).trans known)
            exact ⟨_, .atOnce report known, noted.append grows⟩
        | none =>
            obtain ⟨asked, grows, asks⟩ := growsBy_output_of_unknown
              (delivers_of_originateMessage decided)
              ((stillSame outbound.nextHop).trans known)
            exact ⟨_, .later report known asks, noted.append grows⟩

/-- The senders of several frames are told one after the other, whatever becomes of each
report. -/
theorem tells_foldl_abandon (connected : router.Connected) (environment : Environment)
    (inHand : List FrameInHand) (turn : Turn)
    (deliverable : ∀ held ∈ inHand, ∃ egress,
      router.Delivers ⟨egress, held.target, held.frame⟩)
    (same : ∀ address,
      router.hardwareAddress? turn.state address = router.hardwareAddress? state address) :
    ∃ reports, List.Forall₂ (router.Tells state) inHand reports ∧
      router.GrowsBy turn reports.flatten (inHand.foldl
        (fun current held => router.abandon environment held.target current held.frame)
        turn) := by
  induction inHand generalizing turn with
  | nil => exact ⟨[], List.Forall₂.nil, GrowsBy.refl turn⟩
  | cons held rest ih =>
      obtain ⟨entries, tells, grows⟩ := tells_abandon connected environment
        (deliverable held List.mem_cons_self) same
      have stillSame : ∀ address, router.hardwareAddress?
          (router.abandon environment held.target turn held.frame).state address =
            router.hardwareAddress? state address :=
        fun address => (grows.hardwareAddress?_eq address).trans (same address)
      obtain ⟨reports, tellsRest, growsRest⟩ :=
        ih _ (fun later member => deliverable later (List.mem_cons_of_mem _ member)) stillSame
      exact ⟨entries :: reports, List.Forall₂.cons tells tellsRest, grows.append growsRest⟩

/-- The entry notes that the ARP request of a solicitation was handed to the link. -/
def Asks (router : Router) (solicitation : Solicitation) (entry : JournalEntry) : Prop :=
  ∃ interface refusal, router.interfaces.byName? solicitation.interface = some interface ∧
    entry = .handed (interface.arpRequestFor solicitation.target) refusal none

theorem asks_retransmit (environment : Environment) (turn : Turn) {solicitation : Solicitation}
    (known : ∃ interface, router.interfaces.byName? solicitation.interface = some interface) :
    ∃ entry, router.Asks solicitation entry ∧
      router.GrowsBy turn [entry] (router.retransmit environment turn solicitation) := by
  obtain ⟨interface, found⟩ := known
  rw [retransmit, solicit_eq found]
  exact ⟨_, ⟨interface, _, found, rfl⟩, growsBy_record (fun _ => rfl) turn⟩

theorem asks_foldl_retransmit (environment : Environment) (solicitations : List Solicitation)
    (turn : Turn)
    (known : ∀ solicitation ∈ solicitations, ∃ interface,
      router.interfaces.byName? solicitation.interface = some interface) :
    ∃ resent, List.Forall₂ router.Asks solicitations resent ∧
      router.GrowsBy turn resent (solicitations.foldl (router.retransmit environment) turn) := by
  induction solicitations generalizing turn with
  | nil => exact ⟨[], List.Forall₂.nil, GrowsBy.refl turn⟩
  | cons solicitation rest ih =>
      obtain ⟨entry, asks, grows⟩ :=
        asks_retransmit environment turn (known solicitation List.mem_cons_self)
      obtain ⟨resent, asksRest, growsRest⟩ := ih (router.retransmit environment turn solicitation)
        (fun later member => known later (List.mem_cons_of_mem _ member))
      exact ⟨entry :: resent, List.Forall₂.cons asks asksRest, grows.append growsRest⟩

theorem origin_of_dispatch {identification : UInt16} {arrival : Interface} {octets : Octets}
    {outbound : Outbound}
    (decided : router.dispatch identification arrival octets = .ok outbound) :
    outbound.frame.origin = .originated ∨
      outbound.frame = ⟨octets, .forwarded arrival.name⟩ := by
  unfold dispatch answer at decided
  split at decided
  · cases decided
  split at decided
  · cases decided
  split at decided
  · left
    split at decided
    · exact originated_of_originateMessage decided
    split at decided
    · cases decided
    split at decided
    · cases decided
    split at decided
    · exact originated_of_originateMessage decided
    · exact originated_of_originateMessage decided
  split at decided
  · exact Or.inl (originated_of_originateMessage decided)
  split at decided
  · exact Or.inl (originated_of_originateMessage decided)
  · obtain ⟨egress, -, rfl⟩ := sendAlong_eq_ok_iff.mp decided
    exact Or.inr rfl

section Waiting

variable {nextHop : Ipv4Address} {frame : DatagramFrame}

/-- A frame that waits after a decision has waited before, or is what was decided on. -/
theorem mem_framesFor_submit {decide : UInt16 → Except RouterError Outbound}
    (delivers : ∀ identification outbound, decide identification = .ok outbound →
      router.Delivers outbound)
    (waits : frame ∈ (router.submit environment turn decide).1.state.pending.framesFor nextHop) :
    frame ∈ turn.state.pending.framesFor nextHop ∨
      ∃ identification outbound, decide identification = .ok outbound ∧
        frame = outbound.frame := by
  cases decided : decide (environment.identification turn.journal.length) with
  | error error =>
      rw [submit_of_error decided] at waits
      exact Or.inl waits
  | ok outbound =>
      rw [submit_of_ok decided, state_output (delivers _ _ decided)] at waits
      split at waits
      · exact Or.inl waits
      rw [framesFor_await] at waits
      rcases List.mem_append.mp waits with before | new
      · exact Or.inl before
      · split at new
        · exact Or.inr ⟨_, outbound, decided, List.mem_singleton.mp new⟩
        · cases new

theorem mem_framesFor_foldl_abandon (inHand : List FrameInHand) (turn : Turn)
    (waits : frame ∈ (inHand.foldl
      (fun current held => router.abandon environment held.target current held.frame)
      turn).state.pending.framesFor nextHop) :
    frame ∈ turn.state.pending.framesFor nextHop ∨ frame.origin = .originated := by
  induction inHand generalizing turn with
  | nil => exact Or.inl waits
  | cons held rest ih =>
      rcases ih _ waits with before | own
      · rcases mem_framesFor_submit (fun _ _ => delivers_of_reportAbandoned) before with
          earlier | ⟨identification, outbound, decided, rfl⟩
        · exact Or.inl earlier
        · exact Or.inr (origins_of_reportAbandoned decided).2
      · exact Or.inr own

/-- A frame that waits after an event has waited before, is of the router's own, or has just
arrived. -/
theorem Consistent.mem_framesFor_step (consistent : router.Consistent state)
    (environment : Environment) (event : RouterEvent)
    (waits : frame ∈ (router.step environment state event).1.state.pending.framesFor nextHop) :
    frame ∈ state.pending.framesFor nextHop ∨ frame.origin = .originated ∨
      ∃ name, frame.origin = .forwarded name ∧ event = .arrival name frame.octets := by
  cases event with
  | advance duration => exact Or.inl waits
  | sweep =>
      simp only [Router.step, sweep_eq] at waits
      rcases mem_framesFor_foldl_abandon _ _ waits with before | own
      · rw [state_foldl_retransmit] at before
        rw [PendingRequests.framesFor_poll consistent.distinctTargets nextHop]
        exact Or.inl (List.mem_append_right _ before)
      · exact Or.inr (Or.inl own)
  | arrival name octets =>
      rcases receive_cases router environment (Turn.start state) name octets with
        ⟨packet, -, received⟩ | ⟨-, ⟨error, -, received⟩ | ⟨arrival, request, -, -, received⟩ |
          ⟨arrival, found, ipv4, received⟩⟩
      · have known : router.hardwareAddress? (state.learn packet.sourceAddress packet.sourceMac)
            packet.sourceAddress = some packet.sourceMac :=
          NeighborCache.lookup_insert_self _ _ _ _ _
        obtain ⟨-, -, released, -⟩ := foldl_release environment
          (state.pending.framesFor packet.sourceAddress)
          (Turn.start (state.learn packet.sourceAddress packet.sourceMac)) known
          (fun _ member => consistent.deliverable_of_mem_framesFor member)
        have learnt : (router.step environment state (.arrival name octets)).1.state =
            state.learn packet.sourceAddress packet.sourceMac := by
          rw [Router.step, received, learn_eq]
          exact released
        rw [learnt] at waits
        exact Or.inl
          (PendingRequests.mem_framesFor_of_resolve consistent.distinctTargets waits)
      · simp only [Router.step, received] at waits
        exact Or.inl waits
      · simp only [Router.step, received] at waits
        exact Or.inl waits
      · simp only [Router.step, received, receiveDatagram] at waits
        have name := Interfaces.name_of_byName? found
        rcases mem_framesFor_submit (fun _ _ => delivers_of_dispatch (name ▸ found) ipv4) waits with
          before | ⟨identification, outbound, decided, rfl⟩
        · exact Or.inl before
        · rcases origin_of_dispatch decided with own | same
          · exact Or.inr (Or.inl own)
          · rw [same, ← name]
            exact Or.inr (Or.inr ⟨_, rfl, rfl⟩)

/-- Frames that wait to be forwarded have arrived as they are. -/
theorem Consistent.mem_framesFor_run (consistent : router.Consistent state)
    (events : List (Environment × RouterEvent))
    (waits : frame ∈ (router.run state events).pending.framesFor nextHop) :
    frame ∈ state.pending.framesFor nextHop ∨ frame.origin = .originated ∨
      ∃ name environment, frame.origin = .forwarded name ∧
        (environment, .arrival name frame.octets) ∈ events := by
  induction events generalizing state with
  | nil => exact Or.inl waits
  | cons first rest ih =>
      obtain ⟨environment, event⟩ := first
      rcases ih (consistent.step environment event) waits with
        before | own | ⟨name, later, foreign, member⟩
      · rcases consistent.mem_framesFor_step environment event before with
          earlier | own | ⟨name, foreign, rfl⟩
        · exact Or.inl earlier
        · exact Or.inr (Or.inl own)
        · exact Or.inr (Or.inr ⟨name, environment, foreign, List.mem_cons_self⟩)
      · exact Or.inr (Or.inl own)
      · exact Or.inr (Or.inr ⟨name, later, foreign, List.mem_cons_of_mem _ member⟩)

end Waiting

/-- What a sweep gives up and was to be forwarded has arrived as it is. -/
theorem arrived_of_mem_failed (router : Router) (events : List (Environment × RouterEvent))
    {held : FrameInHand} {name : String}
    (member : held ∈ ((router.run .initial events).pending.poll router.schedule
      (router.run .initial events).now).failed.flatMap PendingRequest.inHand)
    (foreign : held.frame.origin = .forwarded name) :
    ∃ environment, (environment, .arrival name held.frame.octets) ∈ events := by
  have waits := ((consistent_run_initial router events).of_mem_failed member).2
  rcases (consistent_initial router).mem_framesFor_run events waits with
    nothing | own | ⟨arrival, environment, origin, arrived⟩
  · cases nothing
  · rw [foreign] at own
    cases own
  · rw [foreign] at origin
    cases origin
    exact ⟨environment, arrived⟩

/-- A sweep first sends requests again, then gives up the frames of those that have failed, in
the order of the requests and of the frames in each queue.  For every frame that was to be
forwarded, one report goes to its source if a route leads there.  It is handed to the link at
once if its next hop is known, and waits otherwise, as a datagram of the router's own.  For any
other frame there is no report.

All that the sweep notes is what these requests and reports lead to, and the only frames that
have begun to wait are reports for next hops that are not known.  The frames that were to be
forwarded, from which the reports quote, are as they arrived. -/
theorem abandoned_senders_told {interfaces : List Interface} {routes : RoutingTable}
    {settings : Settings} (built : build interfaces routes settings = .ok router)
    (events : List (Environment × RouterEvent)) (environment : Environment) :
    let state := router.run .initial events
    let polled := state.pending.poll router.schedule state.now
    let refreshed := router.refresh state
    let turn := (router.step environment state .sweep).1
    ∃ resent reports, List.Forall₂ router.Asks polled.retransmit resent ∧
      List.Forall₂ (router.Tells refreshed) (polled.failed.flatMap PendingRequest.inHand)
        reports ∧
      router.GrowsBy (Turn.start refreshed) (resent ++ reports.flatten) turn ∧
      ∀ held ∈ polled.failed.flatMap PendingRequest.inHand, ∀ name,
        held.frame.origin = .forwarded name →
          ∃ earlier, (earlier, .arrival name held.frame.octets) ∈ events := by
  intro state polled refreshed turn
  have consistent : router.Consistent state := consistent_run_initial router events
  obtain ⟨resent, asks, grows⟩ := asks_foldl_retransmit environment polled.retransmit
    (Turn.start refreshed) (fun _ member => consistent.byName?_of_mem_retransmit member)
  obtain ⟨reports, tells, growsFurther⟩ := tells_foldl_abandon (connected_of_build built)
    environment (polled.failed.flatMap PendingRequest.inHand) _
    (fun _ member => consistent.deliverable_of_mem_framesFor (consistent.of_mem_failed member).2)
    grows.hardwareAddress?_eq
  refine ⟨resent, reports, asks, tells, ?_,
    fun _ member _ foreign => arrived_of_mem_failed router events member foreign⟩
  have turnEq : turn = router.sweep environment (Turn.start state) := rfl
  rw [turnEq, sweep_eq]
  exact grows.append growsFurther

/-- A gateway does not answer the only request that is sent to it, so the sender of the datagram
that waits for it is told at once.  The datagram has twelve octets of payload.  The report quotes
eight of them behind its header, with the time to live that it had when it arrived. -/
theorem abandoned_senders_told_gateway :
    let lan : Interface := ⟨"lan", ⟨2, 0, 0, 0, 0, 1⟩, ⟨10, 0, 0, 1⟩⟩
    let wan : Interface := ⟨"wan", ⟨2, 0, 0, 0, 0, 2⟩, ⟨10, 0, 1, 1⟩⟩
    let peer : Interface := ⟨"lan", ⟨2, 0, 0, 0, 0, 7⟩, ⟨10, 0, 0, 7⟩⟩
    let gateway : Ipv4Address := ⟨10, 0, 1, 9⟩
    let inside : Route := ⟨⟨10, 0, 0, 0⟩, .unspecified, ⟨255, 255, 255, 0⟩, "lan"⟩
    let outside : Route := ⟨⟨10, 2, 0, 0⟩, gateway, ⟨255, 255, 0, 0⟩, "wan"⟩
    let routes : RoutingTable := ⟨[inside, outside], by decide⟩
    let settings : Settings := { maximumAttempts := 1 }
    let router : Router := ⟨⟨[lan, wan], by decide⟩, routes, settings⟩
    let environment : Environment := ⟨fun _ _ => none, fun _ => 0⟩
    let onward : Ipv4Header := ⟨peer.address, ⟨10, 2, 3, 4⟩, 17, 64, 0, 12⟩
    let packet : Ipv4Packet := ⟨onward.attach [1, 2, 3, 4, 5, 6, 7, 8, 9, 10, 11, 12]⟩
    let frame : Octets := EthernetFrame.assemble lan.mac peer.mac EthernetFrame.ipv4Type
      packet.octets
    let answer : Octets := (peer.arpReplyTo (arpRequest lan peer.address)).frame
    let events : List (Environment × RouterEvent) := [(environment, .arrival "lan" answer),
      (environment, .arrival "lan" frame), (environment, .advance nanosecondsPerSecond)]
    let state := router.run .initial events
    let turn := (router.step environment state .sweep).1
    build [lan, wan] routes settings = .ok router ∧
    Ipv4Packet.ofFrame frame = .ok packet ∧ packet.quotation = packet.octets.take 28 ∧
    turn.handedOver.map (fun transmission => transmission.frame.drop 42) =
      [packet.octets.take 28] ∧
    ∃ entries, router.Tells (router.refresh state) ⟨gateway, ⟨frame, .forwarded "lan"⟩⟩ entries ∧
      turn.journal = entries := by
  intro lan wan peer gateway inside outside routes settings router environment onward packet frame
    answer events state turn
  have built : build [lan, wan] routes settings = .ok router := rfl
  have noneAgain : (state.pending.poll router.schedule state.now).retransmit = [] := by
    decide +kernel
  have oneFailed : (state.pending.poll router.schedule state.now).failed =
      [⟨gateway, "wan", [⟨frame, .forwarded "lan"⟩], 1, 0⟩] := by
    decide +kernel
  obtain ⟨resent, reports, asks, tells, grows, -⟩ :=
    abandoned_senders_told built events environment
  rw [noneAgain] at asks
  rw [oneFailed] at tells
  cases asks
  obtain ⟨entries, rest, told, nobodyElse, rfl⟩ := List.forall₂_cons_left_iff.mp tells
  cases nobodyElse
  refine ⟨built, by decide +kernel, by decide +kernel, by decide +kernel, entries, told, ?_⟩
  rw [grows.journal]
  simp [Turn.start]

end Router

end Ipv4Router
