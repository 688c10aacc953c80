import Ipv4Router.Proofs.LinkIndifference
import Ipv4Router.Proofs.WireFrames

/-!
# The spacing of ARP requests

Between two ARP requests for one address a router lets at least the retransmission interval
pass, if it uses what it learns for at least as long.

Nothing that the router remembers records all the requests that it has sent.  But it need
only remember those that are younger than the interval.  Such a request is either still
pending, and then the time at which it was last sent is kept, or it has been answered, and
then the entry of the neighbour is not older than the interval and so still in use.  This is
kept by everything a router does, and in either case it does not ask for the address.
-/

namespace Ipv4Router

/-- When an ARP request was handed to the link, and the address that it asks for. -/
structure Question where
  time : Nat
  target : Ipv4Address
  deriving DecidableEq

/-- The address that a frame asks for, if it holds an ARP request. -/
def Transmission.asksFor? (transmission : Transmission) : Option Ipv4Address :=
  ((EthernetFrame.mk transmission.frame).arpPacket?.filter
    (fun packet => packet.operation = .request)).map ArpPacket.targetAddress

/-- The ARP requests handed over in a turn. -/
def Turn.questions (turn : Turn) : List Question :=
  turn.handedOver.filterMap (fun transmission =>
    transmission.asksFor?.map (Question.mk turn.state.now))

/-- The ARP requests that a router hands over in a run. -/
def Router.questions (router : Router) (state : RouterState)
    (events : List (Environment × RouterEvent)) : List Question :=
  (router.turns state events).flatMap (fun outcome => outcome.1.questions)

namespace Transmission

theorem asksFor?_assemble (name : String) (destination source : MacAddress)
    (packet : ArpPacket) :
    asksFor? ⟨name, EthernetFrame.assemble destination source EthernetFrame.arpType
        packet.toOctets⟩ =
      if packet.operation = .request then some packet.targetAddress else none := by
  have read : (EthernetFrame.mk (EthernetFrame.assemble destination source
      EthernetFrame.arpType packet.toOctets)).arpPacket? = some packet := by
    rw [EthernetFrame.arpPacket?_eq_some_iff, EthernetFrame.payloadType_assemble,
      EthernetFrame.payload_assemble]
    refine ⟨rfl, ?_⟩
    rw [← List.append_nil packet.toOctets]
    exact packet.ofOctets_toOctets []
  simp only [asksFor?, read, Option.filter]
  split <;> simp_all

theorem asksFor?_arpRequestFor (interface : Interface) (target : Ipv4Address) :
    (interface.arpRequestFor target).asksFor? = some target :=
  asksFor?_assemble _ _ _ _

theorem asksFor?_arpReplyTo (interface : Interface) (request : ArpPacket) :
    (interface.arpReplyTo request).asksFor? = none :=
  asksFor?_assemble _ _ _ _

end Transmission

/-- A datagram asks for nothing. -/
theorem Router.Delivers.asksFor?_complete {router : Router} {outbound : Outbound}
    (delivers : router.Delivers outbound) (mac : MacAddress) :
    Transmission.asksFor? ⟨outbound.egress.name, outbound.complete mac⟩ = none := by
  obtain ⟨packet, carries, -⟩ := delivers.carriesDatagram mac
  have notArp : (EthernetFrame.mk (outbound.complete mac)).payloadType ≠ EthernetFrame.arpType := by
    rw [carries.labelled]
    decide
  rw [Transmission.asksFor?, EthernetFrame.arpPacket?, if_neg notArp]
  rfl

namespace Turn

theorem questions_record_of_silent (turn : Turn) {entry : JournalEntry}
    (silent : entry.handedOver? = none) : (turn.record entry).questions = turn.questions := by
  rw [questions, handedOver_record, silent, Option.toList_none, List.append_nil]
  rfl

theorem questions_transmit (environment : Environment) (turn : Turn)
    (transmission : Transmission) (datagram : Option Outbound) :
    (turn.transmit environment transmission datagram).1.questions = turn.questions ++
      (transmission.asksFor?.map (Question.mk turn.state.now)).toList := by
  rw [questions, handedOver_transmit, List.filterMap_append, questions]
  congr 1

end Turn

/-- Two questions are apart if they are for different addresses or at least an interval lies
between them. -/
def Question.Apart (interval : Nat) (earlier later : Question) : Prop :=
  earlier.target = later.target → earlier.time + interval ≤ later.time

namespace Router

/-- An address may be asked for if all questions for it are old enough. -/
def MayAsk (router : Router) (asked : List Question) (now : Nat) (target : Ipv4Address) : Prop :=
  ∀ question ∈ asked, question.target = target →
    question.time + router.settings.retransmitInterval ≤ now

/-- Questions are apart, and what is remembered in a state tells of each that is not old. -/
structure Spaced (router : Router) (asked : List Question) (state : RouterState) : Prop where
  apart : asked.Pairwise (Question.Apart router.settings.retransmitInterval)
  past : ∀ question ∈ asked, question.time ≤ state.now
  remembered : ∀ question ∈ asked,
    (∃ request, state.pending.find? question.target = some request ∧
      question.time ≤ request.lastSent) ∨
    (∃ entry, state.neighbors.find? question.target = some entry ∧
      question.time ≤ entry.since) ∨
    question.time + router.settings.retransmitInterval ≤ state.now

/-- The same in the midst of an event, after what has been asked about it so far. -/
def SpacedTurn (router : Router) (asked : List Question) (turn : Turn) : Prop :=
  router.Spaced (asked ++ turn.questions) turn.state

variable {router : Router} {environment : Environment} {asked : List Question}
  {state : RouterState}

theorem spaced_initial (router : Router) : router.Spaced [] .initial where
  apart := List.Pairwise.nil
  past := by simp
  remembered := by simp

/-- If an address is not known and no recent request for it is pending, it may be asked
for. -/
theorem Spaced.mayAsk (spaced : router.Spaced asked state)
    (lasting : router.settings.retransmitInterval ≤ router.settings.cacheLifetime)
    {target : Ipv4Address} (unknown : router.hardwareAddress? state target = none)
    (due : ∀ request, state.pending.find? target = some request →
      request.isDue router.schedule state.now = true) :
    router.MayAsk asked state.now target := by
  rintro question member rfl
  have past := spaced.past question member
  rcases spaced.remembered question member with
    ⟨request, found, sent⟩ | ⟨entry, found, learnt⟩ | old
  · have aged : router.settings.retransmitInterval ≤ state.now - request.lastSent :=
      of_decide_eq_true (due request found)
    omega
  · have outdated : ¬ state.now - entry.since ≤ router.settings.cacheLifetime := by
      intro live
      have known : router.hardwareAddress? state question.target = some entry.mac :=
        NeighborCache.lookup_eq_some_iff.mpr ⟨entry, found, live, rfl⟩
      rw [unknown] at known
      cases known
    omega
  · exact old

theorem Spaced.ask (spaced : router.Spaced asked state) {target : Ipv4Address}
    (mayAsk : router.MayAsk asked state.now target)
    (pending : ∃ request, state.pending.find? target = some request ∧
      state.now ≤ request.lastSent) :
    router.Spaced (asked ++ [⟨state.now, target⟩]) state where
  apart := by
    refine List.pairwise_append.mpr ⟨spaced.apart, List.pairwise_singleton _ _, ?_⟩
    intro earlier member later new same
    rw [List.mem_singleton.mp new] at same ⊢
    exact mayAsk earlier member same
  past := by
    intro question member
    rcases List.mem_append.mp member with old | new
    · exact spaced.past question old
    · exact Nat.le_of_eq (congrArg Question.time (List.mem_singleton.mp new))
  remembered := by
    intro question member
    rcases List.mem_append.mp member with old | new
    · exact spaced.remembered question old
    · rw [List.mem_singleton.mp new]
      exact Or.inl pending

theorem Spaced.advance (spaced : router.Spaced asked state) (duration : Nat) :
    router.Spaced asked (state.advance duration) where
  apart := spaced.apart
  past := fun question member =>
    Nat.le_trans (spaced.past question member) (Nat.le_add_right _ _)
  remembered := fun question member => (spaced.remembered question member).imp_right
    (fun later => later.imp_right (fun old => Nat.le_trans old (Nat.le_add_right _ _)))

/-- A datagram that is let wait leaves the times of all requests as they are. -/
theorem Spaced.await (spaced : router.Spaced asked state) (outbound : Outbound) :
    router.Spaced asked (state.await outbound) where
  apart := spaced.apart
  past := spaced.past
  remembered := by
    intro question member
    refine (spaced.remembered question member).imp_left ?_
    rintro ⟨request, found, sent⟩
    by_cases same : outbound.nextHop = question.target
    · refine ⟨request.join outbound.frame, ?_, sent⟩
      rw [← same] at found ⊢
      rw [RouterState.await, PendingRequests.find?_enqueue_self, found]
      rfl
    · refine ⟨request, ?_, sent⟩
      rw [RouterState.await, PendingRequests.find?_enqueue_of_ne same]
      exact found

/-- An answer is younger than the questions that it answers. -/
theorem Spaced.learn (spaced : router.Spaced asked state) (consistent : router.Consistent state)
    (address : Ipv4Address) (mac : MacAddress) :
    router.Spaced asked (state.learn address mac) where
  apart := spaced.apart
  past := spaced.past
  remembered := by
    intro question member
    by_cases same : question.target = address
    · refine Or.inr (Or.inl ⟨⟨address, mac, state.now⟩, ?_, spaced.past question member⟩)
      rw [same]
      exact NeighborCache.find?_insert_self _ _ _ _
    · simp only [RouterState.learn, NeighborCache.find?_insert_of_ne same,
        PendingRequests.find?_resolve_of_ne consistent.distinctTargets same]
      exact spaced.remembered question member

/-- What a sweep forgets is old. -/
theorem Spaced.refresh (spaced : router.Spaced asked state)
    (consistent : router.Consistent state)
    (lasting : router.settings.retransmitInterval ≤ router.settings.cacheLifetime) :
    router.Spaced asked (router.refresh state) where
  apart := spaced.apart
  past := spaced.past
  remembered := by
    intro question member
    have past := spaced.past question member
    rcases spaced.remembered question member with
      ⟨request, found, sent⟩ | ⟨entry, found, learnt⟩ | old
    · cases fails : request.fails router.schedule state.now with
      | false =>
          refine Or.inl ⟨request.afterPoll router.schedule state.now,
            PendingRequests.find?_remaining_poll_of_kept consistent.distinctTargets found fails, ?_⟩
          unfold PendingRequest.afterPoll
          split
          · exact past
          · exact sent
      | true =>
          have due : router.settings.retransmitInterval ≤ state.now - request.lastSent :=
            of_decide_eq_true (Bool.and_eq_true_iff.mp fails).1
          refine Or.inr (Or.inr ?_)
          change question.time + router.settings.retransmitInterval ≤ state.now
          omega
    · cases live : entry.isLive router.settings.cacheLifetime state.now with
      | true =>
          exact Or.inr (Or.inl ⟨entry,
            NeighborCache.find?_expire_of_live consistent.distinctNeighbors found live, learnt⟩)
      | false =>
          have outdated : ¬ state.now - entry.since ≤ router.settings.cacheLifetime :=
            of_decide_eq_false live
          refine Or.inr (Or.inr ?_)
          change question.time + router.settings.retransmitInterval ≤ state.now
          omega
    · exact Or.inr (Or.inr old)

section Turn

variable {turn : Turn}

theorem Spaced.start (spaced : router.Spaced asked state) :
    router.SpacedTurn asked ⟨state, []⟩ := by
  have nothing : asked ++ Turn.questions ⟨state, []⟩ = asked := List.append_nil asked
  rw [SpacedTurn, nothing]
  exact spaced

theorem SpacedTurn.record (spaced : router.SpacedTurn asked turn) {entry : JournalEntry}
    (silent : entry.handedOver? = none) : router.SpacedTurn asked (turn.record entry) := by
  rw [SpacedTurn, turn.questions_record_of_silent silent]
  exact spaced

theorem SpacedTurn.transmit (spaced : router.SpacedTurn asked turn) {transmission : Transmission}
    (silent : transmission.asksFor? = none) (datagram : Option Outbound) :
    router.SpacedTurn asked (turn.transmit environment transmission datagram).1 := by
  rw [SpacedTurn, Turn.questions_transmit, silent, Option.map_none, Option.toList_none,
    List.append_nil]
  exact spaced

/-- A request may be handed over if its target may be asked for and it is remembered as last
sent now. -/
theorem SpacedTurn.ask (spaced : router.SpacedTurn asked turn) (interface : Interface)
    {target : Ipv4Address}
    (mayAsk : router.MayAsk (asked ++ turn.questions) turn.state.now target)
    (pending : ∃ request, turn.state.pending.find? target = some request ∧
      turn.state.now ≤ request.lastSent) :
    router.SpacedTurn asked
      (turn.transmit environment (interface.arpRequestFor target) none).1 := by
  rw [SpacedTurn, Turn.questions_transmit, Transmission.asksFor?_arpRequestFor,
    ← List.append_assoc]
  exact Spaced.ask spaced mayAsk pending

section Output

variable (lasting : router.settings.retransmitInterval ≤ router.settings.cacheLifetime)

include lasting

/-- Output asks for an address only if it may be asked for. -/
theorem spaced_output {outbound : Outbound} (delivers : router.Delivers outbound)
    (spaced : router.SpacedTurn asked turn) :
    router.SpacedTurn asked (router.output environment turn outbound).1 := by
  cases known : router.hardwareAddress? turn.state outbound.nextHop with
  | some mac =>
      rw [output_of_known known]
      exact spaced.transmit (delivers.asksFor?_complete mac) _
  | none =>
      cases found : turn.state.pending.find? outbound.nextHop with
      | some request =>
          rw [output_of_joined known found]
          exact Spaced.await spaced outbound
      | none =>
          have waiting : router.SpacedTurn asked { turn with state := turn.state.await outbound } :=
            Spaced.await spaced outbound
          rw [output_of_opened delivers known found]
          refine waiting.ask _ (Spaced.mayAsk spaced lasting known ?_) ?_
          · simp [found]
          · rw [RouterState.await, PendingRequests.find?_enqueue_self, found]
            exact ⟨_, rfl, Nat.le_refl _⟩

theorem spaced_submitAs {note : Outbound → JournalEntry}
    {decide : UInt16 → Except RouterError Outbound}
    (silent : ∀ outbound, (note outbound).handedOver? = none)
    (delivers : ∀ identification outbound, decide identification = .ok outbound →
      router.Delivers outbound)
    (spaced : router.SpacedTurn asked turn) :
    router.SpacedTurn asked (router.submitAs environment turn note decide).1 := by
  unfold submitAs
  split
  · exact spaced
  next outbound decided =>
    exact spaced_output lasting (delivers _ _ decided) (spaced.record (silent outbound))

theorem spaced_release (frames : List DatagramFrame) {address : Ipv4Address}
    (deliverable : ∀ frame ∈ frames, ∃ egress, router.Delivers ⟨egress, address, frame⟩)
    (spaced : router.SpacedTurn asked turn) :
    router.SpacedTurn asked (frames.foldl (router.release environment) turn) := by
  induction frames generalizing turn with
  | nil => exact spaced
  | cons frame rest ih =>
      obtain ⟨egress, delivers⟩ := deliverable frame List.mem_cons_self
      have resumed : ∀ identification outbound,
          router.dispatchAgain identification frame = .ok outbound →
            router.Delivers outbound := by
        intro identification outbound decided
        rw [delivers.dispatchAgain_eq identification] at decided
        cases decided
        exact delivers
      refine ih (fun later member => deliverable later (List.mem_cons_of_mem _ member)) ?_
      exact spaced_submitAs lasting (fun _ => rfl) resumed spaced

theorem spaced_abandon (inHand : List FrameInHand)
    (spaced : router.SpacedTurn asked turn) :
    router.SpacedTurn asked (inHand.foldl
      (fun current held => router.abandon environment held.target current held.frame) turn) := by
  induction inHand generalizing turn with
  | nil => exact spaced
  | cons held rest ih =>
      exact ih (spaced_submitAs lasting (fun _ => rfl)
        (fun _ _ => delivers_of_reportAbandoned) (spaced.record rfl))

end Output

/-- Requests for different addresses may be sent again, one after the other. -/
theorem spaced_retransmit (solicitations : List Solicitation)
    (distinct : (solicitations.map Solicitation.target).Nodup)
    (mayAsk : ∀ solicitation ∈ solicitations,
      router.MayAsk (asked ++ turn.questions) turn.state.now solicitation.target)
    (pending : ∀ solicitation ∈ solicitations, ∃ request,
      turn.state.pending.find? solicitation.target = some request ∧
        turn.state.now ≤ request.lastSent)
    (spaced : router.SpacedTurn asked turn) :
    router.SpacedTurn asked (solicitations.foldl (router.retransmit environment) turn) := by
  induction solicitations generalizing turn with
  | nil => exact spaced
  | cons solicitation rest ih =>
      obtain ⟨fresh, restDistinct⟩ := List.nodup_cons.mp distinct
      have mayAskNow := mayAsk solicitation List.mem_cons_self
      have mayAskLater : ∀ later ∈ rest,
          router.MayAsk (asked ++ turn.questions) turn.state.now later.target :=
        fun later member => mayAsk later (List.mem_cons_of_mem _ member)
      have pendingLater : ∀ later ∈ rest, ∃ request,
          turn.state.pending.find? later.target = some request ∧
            turn.state.now ≤ request.lastSent :=
        fun later member => pending later (List.mem_cons_of_mem _ member)
      cases found : router.interfaces.byName? solicitation.interface with
      | none =>
          have unchanged : router.retransmit environment turn solicitation = turn := by
            simp only [retransmit, solicit, found]
          rw [List.foldl_cons, unchanged]
          exact ih restDistinct mayAskLater pendingLater spaced
      | some interface =>
          have sent : router.retransmit environment turn solicitation =
              (turn.transmit environment (interface.arpRequestFor solicitation.target) none).1 := by
            rw [retransmit, solicit_eq found]
          rw [List.foldl_cons, sent]
          refine ih restDistinct ?_ pendingLater
            (spaced.ask interface mayAskNow (pending solicitation List.mem_cons_self))
          -- The question just asked is for another address than those that follow.
          intro later member question askedBefore same
          rw [Turn.questions_transmit, Transmission.asksFor?_arpRequestFor,
            ← List.append_assoc] at askedBefore
          rcases List.mem_append.mp askedBefore with old | new
          · exact mayAskLater later member question old same
          · rw [List.mem_singleton.mp new] at same
            exact absurd (List.mem_map.mpr ⟨later, member, same.symm⟩) fresh

end Turn

theorem Spaced.mayAsk_of_retransmit (spaced : router.Spaced asked state)
    (consistent : router.Consistent state)
    (lasting : router.settings.retransmitInterval ≤ router.settings.cacheLifetime)
    {solicitation : Solicitation}
    (member : solicitation ∈ (state.pending.poll router.schedule state.now).retransmit) :
    router.MayAsk asked state.now solicitation.target := by
  obtain ⟨request, found, due, -⟩ :=
    PendingRequests.find?_of_mem_retransmit_poll consistent.distinctTargets member
  have unknown := consistent.unresolved request (List.mem_of_find?_eq_some found)
  rw [PendingRequests.target_of_find? found] at unknown
  refine spaced.mayAsk lasting unknown ?_
  intro other otherFound
  rw [found] at otherFound
  cases otherFound
  exact due

theorem exists_resent (consistent : router.Consistent state) {solicitation : Solicitation}
    (member : solicitation ∈ (state.pending.poll router.schedule state.now).retransmit) :
    ∃ request, (router.refresh state).pending.find? solicitation.target = some request ∧
      state.now ≤ request.lastSent := by
  obtain ⟨request, found, due, notExhausted⟩ :=
    PendingRequests.find?_of_mem_retransmit_poll consistent.distinctTargets member
  have kept : request.fails router.schedule state.now = false := by
    rw [PendingRequest.fails, due, notExhausted]
    rfl
  have left := PendingRequests.find?_remaining_poll_of_kept consistent.distinctTargets found kept
  rw [PendingRequest.afterPoll, if_pos due] at left
  exact ⟨request.resent state.now, left, Nat.le_refl _⟩

/-- The poll is first, then requests are sent again, and the errors come last. -/
theorem spaced_sweep (consistent : router.Consistent state)
    (lasting : router.settings.retransmitInterval ≤ router.settings.cacheLifetime)
    (spaced : router.Spaced asked state) :
    router.SpacedTurn asked (router.sweep environment (Turn.start state)) := by
  rw [sweep_eq]
  apply spaced_abandon lasting
  apply spaced_retransmit
  · exact consistent.distinctTargets.retransmit_poll
  · exact fun solicitation member =>
      Spaced.mayAsk_of_retransmit spaced.start consistent lasting member
  · exact fun solicitation member => exists_resent consistent member
  · exact (spaced.refresh consistent lasting).start

variable (lasting : router.settings.retransmitInterval ≤ router.settings.cacheLifetime)

include lasting

theorem spaced_step (consistent : router.Consistent state) (environment : Environment)
    (event : RouterEvent) (spaced : router.Spaced asked state) :
    router.SpacedTurn asked (router.step environment state event).1 := by
  cases event with
  | advance duration => exact (spaced.advance duration).start
  | sweep => exact spaced_sweep consistent lasting spaced
  | arrival name octets =>
      rcases receive_cases router environment (Turn.start state) name octets with
        ⟨packet, -, received⟩ | ⟨-, ⟨error, -, received⟩ | ⟨arrival, request, -, -, received⟩ |
          ⟨arrival, found, ipv4, received⟩⟩
      · simp only [step, received, learn_eq]
        apply spaced_release lasting
        · exact fun frame member => consistent.deliverable_of_mem_framesFor member
        · exact (spaced.learn consistent packet.sourceAddress packet.sourceMac).start
      · simp only [step, received]
        exact spaced.start
      · simp only [step, received]
        exact spaced.start.transmit (Transmission.asksFor?_arpReplyTo arrival request) none
      · simp only [step, received, receiveDatagram, submit]
        have name := Interfaces.name_of_byName? found
        exact spaced_submitAs lasting (fun _ => rfl)
          (fun _ _ => delivers_of_dispatch (name ▸ found) ipv4) spaced.start

theorem spaced_run (consistent : router.Consistent state)
    (events : List (Environment × RouterEvent)) (spaced : router.Spaced asked state) :
    router.Spaced (asked ++ router.questions state events) (router.run state events) := by
  induction events generalizing state asked with
  | nil =>
      change router.Spaced (asked ++ []) state
      rw [List.append_nil]
      exact spaced
  | cons first rest ih =>
      have now := spaced_step lasting consistent first.1 first.2 spaced
      have later := ih (consistent.step first.1 first.2) now
      rw [List.append_assoc] at later
      exact later

omit lasting

/-- If addresses are used for at least the retransmission interval once they are learnt, any
two ARP requests for one address that a router hands over are at least this interval
apart. -/
theorem requests_are_spaced (router : Router)
    (lasting : router.settings.retransmitInterval ≤ router.settings.cacheLifetime)
    (events : List (Environment × RouterEvent)) :
    (router.questions .initial events).Pairwise (fun earlier later =>
      earlier.target = later.target →
        earlier.time + router.settings.retransmitInterval ≤ later.time) :=
  (spaced_run lasting (consistent_initial router) events (spaced_initial router)).apart

/-- A gateway is asked for on behalf of a datagram, asked again in the next sweep, and asked
once more after it has answered and its answer is outdated. -/
theorem requests_are_spaced_gateway :
    let lan : Interface := ⟨"lan", ⟨2, 0, 0, 0, 0, 1⟩, ⟨10, 0, 0, 1⟩⟩
    let wan : Interface := ⟨"wan", ⟨2, 0, 0, 0, 0, 2⟩, ⟨10, 0, 1, 1⟩⟩
    let gateway : Interface := ⟨"wan", ⟨2, 0, 0, 0, 0, 9⟩, ⟨10, 0, 1, 9⟩⟩
    let route : Route := ⟨⟨10, 2, 0, 0⟩, gateway.address, ⟨255, 255, 0, 0⟩, "wan"⟩
    let router : Router := ⟨⟨[lan, wan], by decide⟩, ⟨[route], List.pairwise_singleton _ _⟩, {}⟩
    let environment : Environment := ⟨fun _ _ => none, fun _ => 0⟩
    let datagram := Ipv4Header.attach ⟨⟨10, 0, 0, 7⟩, ⟨10, 2, 3, 4⟩, 17, 64, 0, 0⟩ []
    let onward : RouterEvent := .arrival "lan"
      (EthernetFrame.assemble lan.mac ⟨2, 0, 0, 0, 0, 7⟩ EthernetFrame.ipv4Type datagram)
    let answer : RouterEvent :=
      .arrival "wan" (gateway.arpReplyTo (arpRequest wan gateway.address)).frame
    let events := [onward, .advance nanosecondsPerSecond, .sweep, answer,
      .advance (16 * nanosecondsPerSecond), onward].map (Prod.mk environment)
    router.settings.retransmitInterval ≤ router.settings.cacheLifetime ∧
    (router.questions .initial events).map Question.time =
      [0, nanosecondsPerSecond, 17 * nanosecondsPerSecond] ∧
    (router.questions .initial events).Pairwise (fun earlier later =>
      earlier.target = later.target →
        earlier.time + router.settings.retransmitInterval ≤ later.time) := by
  intro lan wan gateway route router environment datagram onward answer events
  have lasting : router.settings.retransmitInterval ≤ router.settings.cacheLifetime := by decide
  exact ⟨lasting, by decide +kernel, requests_are_spaced router lasting events⟩

end Router

end Ipv4Router
