import Ipv4Router.Proofs.NeighborLookups
import Ipv4Router.Proofs.TurnActions

/-!
# The state of address resolution

At every moment of a run, the neighbours and the pending requests of a router fit
together.  An address is either known or being resolved, never both.  A request
has frames to wait for it, all of which are deliverable to its target, and has
been sent at least once and at most as often as allowed.

The invariant is kept by each change of what the router remembers.  It also
tells what the frames in hand are, which is why the turn of every event is a
course of actions from the opening of the event.
-/

namespace Ipv4Router

namespace Router

/-- What holds of a pending request at a given time. -/
structure SoundRequest (router : Router) (now : Nat) (request : PendingRequest) : Prop where
  attempted : 1 ≤ request.attempts.toNat
  limited : request.attempts.toNat ≤ max 1 router.settings.maximumAttempts.toNat
  sentBefore : request.lastSent ≤ now
  /-- Every frame is on its way to the target. -/
  deliverable : ∀ frame ∈ request.frames, ∃ egress,
    router.Delivers ⟨egress, request.target, frame⟩
  /-- The oldest frame leaves through the interface that is asked for the target. -/
  oldest : ∃ frame rest egress, request.frames = frame :: rest ∧
    egress.name = request.interface ∧ router.Delivers ⟨egress, request.target, frame⟩

/-- What holds of a router's memory at every moment of a run. -/
structure Consistent (router : Router) (state : RouterState) : Prop where
  distinctNeighbors : state.neighbors.Distinct
  distinctTargets : state.pending.Distinct
  /-- The targets of the pending requests are not known. -/
  unresolved : ∀ request ∈ state.pending,
    router.hardwareAddress? state request.target = none
  sound : ∀ request ∈ state.pending, router.SoundRequest state.now request

variable {router : Router} {state : RouterState} {environment : Environment}

theorem SoundRequest.later {now later : Nat} {request : PendingRequest}
    (sound : router.SoundRequest now request) (order : now ≤ later) :
    router.SoundRequest later request :=
  { sound with sentBefore := Nat.le_trans sound.sentBefore order }

theorem SoundRequest.first {outbound : Outbound} (delivers : router.Delivers outbound)
    (now : Nat) :
    router.SoundRequest now
      ⟨outbound.nextHop, outbound.egress.name, [outbound.frame], 1, now⟩ where
  attempted := Nat.le_refl 1
  limited := Nat.le_max_left 1 _
  sentBefore := Nat.le_refl now
  deliverable := by
    intro frame member
    rw [List.mem_singleton.mp member]
    exact ⟨outbound.egress, delivers⟩
  oldest := ⟨outbound.frame, [], outbound.egress, rfl, rfl, delivers⟩

theorem SoundRequest.join {now : Nat} {request : PendingRequest} {outbound : Outbound}
    (sound : router.SoundRequest now request) (delivers : router.Delivers outbound)
    (towards : outbound.nextHop = request.target) :
    router.SoundRequest now (request.join outbound.frame) where
  attempted := sound.attempted
  limited := sound.limited
  sentBefore := sound.sentBefore
  deliverable := by
    intro frame member
    rcases List.mem_append.mp member with waiting | new
    · exact sound.deliverable frame waiting
    · rw [List.mem_singleton.mp new]
      refine ⟨outbound.egress, ?_⟩
      simpa only [PendingRequest.join, ← towards] using delivers
  oldest := by
    obtain ⟨frame, rest, egress, frames, leaves, first⟩ := sound.oldest
    refine ⟨frame, rest ++ [outbound.frame], egress, ?_, leaves, first⟩
    simp only [PendingRequest.join, frames, List.cons_append]

/-- A request that a poll does not give up may be sent once more. -/
theorem SoundRequest.afterPoll {now : Nat} {request : PendingRequest}
    (sound : router.SoundRequest now request)
    (kept : request.fails router.schedule now = false) :
    router.SoundRequest now (request.afterPoll router.schedule now) := by
  by_cases due : request.isDue router.schedule now
  · have notExhausted : request.isExhausted router.schedule = false := by
      simpa only [PendingRequest.fails, due, Bool.true_and] using kept
    have below : request.attempts.toNat < router.settings.maximumAttempts.toNat :=
      PendingRequest.attempts_lt_of_not_exhausted notExhausted
    have counted := PendingRequest.toNat_attempts_resent notExhausted now
    rw [PendingRequest.afterPoll, if_pos due]
    exact {
      attempted := by omega
      limited := by
        rw [counted]
        omega
      sentBefore := Nat.le_refl now
      deliverable := sound.deliverable
      oldest := sound.oldest }
  · rw [PendingRequest.afterPoll, if_neg due]
    exact sound

theorem Consistent.find?_eq_none (consistent : router.Consistent state)
    {address : Ipv4Address} {mac : MacAddress}
    (known : router.hardwareAddress? state address = some mac) :
    state.pending.find? address = none := by
  rw [PendingRequests.find?_eq_none_iff]
  intro request member target
  have unknown := consistent.unresolved request member
  rw [target, known] at unknown
  cases unknown

theorem Consistent.deliverable_of_mem_framesFor (consistent : router.Consistent state)
    {address : Ipv4Address} {frame : DatagramFrame}
    (member : frame ∈ state.pending.framesFor address) :
    ∃ egress, router.Delivers ⟨egress, address, frame⟩ := by
  simp only [PendingRequests.framesFor] at member
  cases found : state.pending.find? address with
  | none => simp [found] at member
  | some request =>
      rw [found] at member
      have sound := consistent.sound request (List.mem_of_find?_eq_some found)
      rw [← PendingRequests.target_of_find? found]
      exact sound.deliverable frame member

theorem consistent_initial (router : Router) : router.Consistent .initial where
  distinctNeighbors := NeighborCache.distinct_empty 0
  distinctTargets := List.nodup_nil
  unresolved := by simp [RouterState.initial]
  sound := by simp [RouterState.initial]

theorem Consistent.advance (consistent : router.Consistent state) (duration : Nat) :
    router.Consistent (state.advance duration) where
  distinctNeighbors := consistent.distinctNeighbors
  distinctTargets := consistent.distinctTargets
  unresolved := fun request member =>
    NeighborCache.lookup_eq_none_of_le (Nat.le_add_right _ _)
      (consistent.unresolved request member)
  sound := fun request member =>
    (consistent.sound request member).later (Nat.le_add_right _ _)

theorem Consistent.await {outbound : Outbound} (consistent : router.Consistent state)
    (delivers : router.Delivers outbound)
    (unknown : router.hardwareAddress? state outbound.nextHop = none) :
    router.Consistent (state.await outbound) where
  distinctNeighbors := consistent.distinctNeighbors
  distinctTargets := consistent.distinctTargets.enqueue
  unresolved := by
    intro request member
    rcases PendingRequests.mem_enqueue member with old | ⟨old, found, rfl⟩ | ⟨-, rfl⟩
    · exact consistent.unresolved request old
    · exact consistent.unresolved old (List.mem_of_find?_eq_some found)
    · exact unknown
  sound := by
    intro request member
    rcases PendingRequests.mem_enqueue member with old | ⟨old, found, rfl⟩ | ⟨-, rfl⟩
    · exact consistent.sound request old
    · exact (consistent.sound old (List.mem_of_find?_eq_some found)).join delivers
        (PendingRequests.target_of_find? found).symm
    · exact SoundRequest.first delivers state.now

/-- Once an address is known, nothing waits for it. -/
theorem Consistent.learn (consistent : router.Consistent state) (address : Ipv4Address)
    (mac : MacAddress) : router.Consistent (state.learn address mac) where
  distinctNeighbors := consistent.distinctNeighbors.insert _ _ _
  distinctTargets := consistent.distinctTargets.resolve address
  unresolved := by
    intro request member
    obtain ⟨old, other⟩ := (PendingRequests.mem_resolve consistent.distinctTargets).mp member
    rw [hardwareAddress?, RouterState.learn, NeighborCache.lookup_insert_of_ne other]
    exact consistent.unresolved request old
  sound := by
    intro request member
    obtain ⟨old, -⟩ := (PendingRequests.mem_resolve consistent.distinctTargets).mp member
    exact consistent.sound request old

/-- The removal of outdated neighbours changes no address that is known. -/
theorem hardwareAddress?_refresh (consistent : router.Consistent state)
    (address : Ipv4Address) :
    router.hardwareAddress? (router.refresh state) address =
      router.hardwareAddress? state address :=
  NeighborCache.lookup_expire consistent.distinctNeighbors _ _ address

theorem Consistent.refresh (consistent : router.Consistent state) :
    router.Consistent (router.refresh state) := by
  constructor
  case distinctNeighbors => exact consistent.distinctNeighbors.expire _ _
  case distinctTargets => exact consistent.distinctTargets.remaining_poll
  case unresolved =>
    intro request member
    obtain ⟨old, present, -, rfl⟩ := PendingRequests.mem_remaining_poll.mp member
    rw [hardwareAddress?_refresh consistent, PendingRequest.target_afterPoll]
    exact consistent.unresolved old present
  case sound =>
    intro request member
    obtain ⟨old, present, notFailed, rfl⟩ := PendingRequests.mem_remaining_poll.mp member
    exact (consistent.sound old present).afterPoll notFailed

theorem Action.neighbors_eq {stage next : Stage}
    (action : router.Action environment stage next) :
    next.turn.state.neighbors = stage.turn.state.neighbors ∧
      next.turn.state.now = stage.turn.state.now := by
  cases action with
  | accept delivers behind =>
      rw [state_output delivers]
      split <;> exact ⟨rfl, rfl⟩
  | resume delivers known =>
      rw [state_output delivers]
      split <;> exact ⟨rfl, rfl⟩
  | abandon => exact ⟨rfl, rfl⟩
  | ask known => exact ⟨rfl, rfl⟩
  | reply known owned => exact ⟨rfl, rfl⟩

/-- Within a turn, the same hardware addresses stay known. -/
theorem Action.hardwareAddress?_eq {stage next : Stage}
    (action : router.Action environment stage next) (address : Ipv4Address) :
    router.hardwareAddress? next.turn.state address =
      router.hardwareAddress? stage.turn.state address := by
  rw [hardwareAddress?, action.neighbors_eq.1, action.neighbors_eq.2, hardwareAddress?]

theorem Action.consistent {stage next : Stage}
    (action : router.Action environment stage next)
    (consistent : router.Consistent stage.turn.state) :
    router.Consistent next.turn.state := by
  have outputConsistent : ∀ {turn : Turn} {outbound : Outbound},
      router.Consistent turn.state → router.Delivers outbound →
        router.Consistent (router.output environment turn outbound).1.state := by
    intro turn outbound consistent delivers
    rw [state_output delivers]
    split
    · exact consistent
    · next unknown => exact consistent.await delivers (by simpa using unknown)
  cases action with
  | accept delivers behind => exact outputConsistent consistent delivers
  | resume delivers known => exact outputConsistent consistent delivers
  | abandon => exact consistent
  | ask known => exact consistent
  | reply known owned => exact consistent

/-- What every action keeps holds at the end of a course if it holds at the start. -/
theorem Course.preserves {Holds : Stage → Prop}
    (kept : ∀ {stage next}, router.Action environment stage next → Holds stage → Holds next)
    {stage last : Stage} (course : router.Course environment stage last)
    (start : Holds stage) : Holds last := by
  induction course with
  | refl => exact start
  | tail _ action ih => exact kept action ih

theorem Course.neighbors_eq {stage last : Stage}
    (course : router.Course environment stage last) :
    last.turn.state.neighbors = stage.turn.state.neighbors ∧
      last.turn.state.now = stage.turn.state.now := by
  induction course with
  | refl => exact ⟨rfl, rfl⟩
  | tail _ action ih =>
      exact ⟨action.neighbors_eq.1.trans ih.1, action.neighbors_eq.2.trans ih.2⟩

theorem Course.hardwareAddress?_eq {stage last : Stage}
    (course : router.Course environment stage last) (address : Ipv4Address) :
    router.hardwareAddress? last.turn.state address =
      router.hardwareAddress? stage.turn.state address := by
  rw [hardwareAddress?, course.neighbors_eq.1, course.neighbors_eq.2, hardwareAddress?]

theorem Course.consistent {stage last : Stage}
    (course : router.Course environment stage last)
    (consistent : router.Consistent stage.turn.state) :
    router.Consistent last.turn.state :=
  course.preserves (fun action => action.consistent) consistent

/-- The frames that waited for an address that has become known are resumed one
after the other. -/
theorem release_course {address : Ipv4Address} {mac : MacAddress}
    (frames : List DatagramFrame) (turn : Turn)
    (known : router.hardwareAddress? turn.state address = some mac)
    (deliverable : ∀ frame ∈ frames, ∃ egress, router.Delivers ⟨egress, address, frame⟩) :
    router.Course environment ⟨frames.map (FrameInHand.mk address), turn⟩
      ⟨[], frames.foldl (router.release environment) turn⟩ := by
  induction frames generalizing turn with
  | nil => exact Relation.ReflTransGen.refl
  | cons frame rest ih =>
      obtain ⟨egress, delivers⟩ := deliverable frame List.mem_cons_self
      have released : router.release environment turn frame =
          (router.output environment
            (turn.record (.resumed frame ⟨egress, address, frame⟩))
            ⟨egress, address, frame⟩).1 := by
        simp only [release, submitAs, delivers.dispatchAgain_eq]
      have action : router.Action environment
          ⟨⟨address, frame⟩ :: rest.map (FrameInHand.mk address), turn⟩
          ⟨rest.map (FrameInHand.mk address), router.release environment turn frame⟩ := by
        rw [released]
        exact Action.resume delivers known
      refine Relation.ReflTransGen.head action (ih _ ?_ ?_)
      · exact (action.hardwareAddress?_eq address).trans known
      · exact fun later member => deliverable later (List.mem_cons_of_mem _ member)

/-- A new datagram that overtakes no frame in hand is output in at most one
action. -/
theorem submit_course {inHand : List FrameInHand} {turn : Turn}
    {decide : UInt16 → Except RouterError Outbound}
    (delivers : ∀ identification outbound, decide identification = .ok outbound →
      router.Delivers outbound)
    (unknown : ∀ held ∈ inHand, router.hardwareAddress? turn.state held.target = none) :
    router.Course environment ⟨inHand, turn⟩
      ⟨inHand, (router.submit environment turn decide).1⟩ := by
  unfold submit submitAs
  split
  · exact Relation.ReflTransGen.refl
  · next outbound decided =>
    refine Relation.ReflTransGen.single (Action.accept (delivers _ _ decided) ?_)
    intro known held member towards
    exact known (towards ▸ unknown held member)

theorem abandon_course (inHand : List FrameInHand) (turn : Turn)
    (unknown : ∀ held ∈ inHand, router.hardwareAddress? turn.state held.target = none) :
    router.Course environment ⟨inHand, turn⟩
      ⟨[], inHand.foldl
        (fun current held => router.abandon environment held.target current held.frame)
        turn⟩ := by
  induction inHand generalizing turn with
  | nil => exact Relation.ReflTransGen.refl
  | cons held rest ih =>
      have restUnknown : ∀ later ∈ rest,
          router.hardwareAddress? turn.state later.target = none :=
        fun later member => unknown later (List.mem_cons_of_mem _ member)
      have givenUp : router.Course environment ⟨held :: rest, turn⟩
          ⟨rest, router.abandon environment held.target turn held.frame⟩ :=
        Relation.ReflTransGen.head Action.abandon
          (submit_course (fun _ _ => delivers_of_reportAbandoned) restUnknown)
      refine givenUp.trans (ih _ ?_)
      intro later member
      rw [Course.hardwareAddress?_eq givenUp]
      exact restUnknown later member

theorem ask_course {inHand : List FrameInHand} (solicitations : List Solicitation)
    (turn : Turn)
    (known : ∀ solicitation ∈ solicitations, ∃ interface,
      router.interfaces.byName? solicitation.interface = some interface) :
    router.Course environment ⟨inHand, turn⟩
      ⟨inHand, solicitations.foldl (router.retransmit environment) turn⟩ := by
  induction solicitations generalizing turn with
  | nil => exact Relation.ReflTransGen.refl
  | cons solicitation rest ih =>
      obtain ⟨interface, found⟩ := known solicitation List.mem_cons_self
      have name := Interfaces.name_of_byName? found
      have action : router.Action environment ⟨inHand, turn⟩
          ⟨inHand, router.retransmit environment turn solicitation⟩ := by
        rw [retransmit, solicit_eq found]
        exact Action.ask (name ▸ found)
      exact Relation.ReflTransGen.head action
        (ih _ (fun later member => known later (List.mem_cons_of_mem _ member)))

/-- The interfaces through which requests are sent again are interfaces of the router. -/
theorem Consistent.byName?_of_mem_retransmit (consistent : router.Consistent state)
    {solicitation : Solicitation}
    (member : solicitation ∈ (state.pending.poll router.schedule state.now).retransmit) :
    ∃ interface, router.interfaces.byName? solicitation.interface = some interface := by
  rw [PendingRequests.retransmit_poll] at member
  obtain ⟨request, polled, rfl⟩ := List.mem_map.mp member
  obtain ⟨_, _, egress, _, leaves, delivers⟩ :=
    (consistent.sound request (List.mem_filter.mp polled).1).oldest
  refine ⟨egress, ?_⟩
  rw [PendingRequest.solicitation, ← leaves]
  exact delivers.byName?_egress

/-- The frames that a sweep gives up have waited for addresses that are not known. -/
theorem Consistent.of_mem_failed (consistent : router.Consistent state) {held : FrameInHand}
    (member : held ∈ (state.pending.poll router.schedule state.now).failed.flatMap
      PendingRequest.inHand) :
    router.hardwareAddress? state held.target = none ∧
      held.frame ∈ state.pending.framesFor held.target := by
  obtain ⟨request, failed, heldMember⟩ := List.mem_flatMap.mp member
  rw [PendingRequests.failed_poll] at failed
  have present := (List.mem_filter.mp failed).1
  obtain ⟨frame, waiting, rfl⟩ := List.mem_map.mp heldMember
  have found := (PendingRequests.find?_eq_some_iff consistent.distinctTargets).mpr ⟨present, rfl⟩
  refine ⟨consistent.unresolved request present, ?_⟩
  rw [PendingRequests.framesFor, found]
  exact waiting

theorem sweep_course (consistent : router.Consistent state) :
    router.Course environment (router.opening state .sweep)
      ⟨[], router.sweep environment (Turn.start state)⟩ := by
  rw [sweep_eq]
  have asked : router.Course environment (router.opening state .sweep)
      ⟨(router.opening state .sweep).inHand,
        (state.pending.poll router.schedule state.now).retransmit.foldl
          (router.retransmit environment) (Turn.start (router.refresh state))⟩ :=
    ask_course _ _ (fun _ member => consistent.byName?_of_mem_retransmit member)
  refine asked.trans (abandon_course _ _ ?_)
  intro held member
  rw [Course.hardwareAddress?_eq asked]
  exact (hardwareAddress?_refresh consistent held.target).trans
    (consistent.of_mem_failed member).1

theorem learn_course (consistent : router.Consistent state) (address : Ipv4Address)
    (mac : MacAddress) :
    router.Course environment
      ⟨(state.pending.framesFor address).map (FrameInHand.mk address),
        Turn.start (state.learn address mac)⟩
      ⟨[], router.learn environment (Turn.start state) address mac⟩ := by
  rw [learn_eq]
  apply release_course
  · exact NeighborCache.lookup_insert_self _ _ _ _ _
  · exact fun frame member => consistent.deliverable_of_mem_framesFor member

/-- The turn of every event is a course of actions from the opening of the event,
and no frame stays in hand. -/
theorem step_course (consistent : router.Consistent state) (environment : Environment)
    (event : RouterEvent) :
    router.Course environment (router.opening state event)
      ⟨[], (router.step environment state event).1⟩ := by
  cases event with
  | advance duration => exact Relation.ReflTransGen.refl
  | sweep => exact sweep_course consistent
  | arrival name octets =>
      rcases receive_cases router environment (Turn.start state) name octets with
        ⟨packet, heard, received⟩ | ⟨notHeard, received⟩
      · simp only [step, received, opening, heard]
        exact learn_course consistent packet.sourceAddress packet.sourceMac
      · simp only [opening, notHeard]
        rcases received with
          ⟨error, -, refused⟩ | ⟨arrival, request, found, owned, replied⟩ |
          ⟨arrival, found, ipv4, taken⟩
        · simp only [step, refused]
          exact Relation.ReflTransGen.refl
        · simp only [step, replied]
          have name := Interfaces.name_of_byName? found
          exact Relation.ReflTransGen.single (Action.reply (name ▸ found) owned)
        · simp only [step, taken]
          have name := Interfaces.name_of_byName? found
          exact submit_course (fun _ _ => delivers_of_dispatch (name ▸ found) ipv4) (by simp)

theorem Consistent.opening (consistent : router.Consistent state) (event : RouterEvent) :
    router.Consistent (router.opening state event).turn.state := by
  cases event with
  | advance duration => exact consistent.advance duration
  | sweep => exact consistent.refresh
  | arrival name octets =>
      unfold Router.opening
      simp only
      split
      · exact consistent.learn _ _
      · exact consistent

theorem Consistent.step (consistent : router.Consistent state) (environment : Environment)
    (event : RouterEvent) :
    router.Consistent (router.step environment state event).1.state :=
  (step_course consistent environment event).consistent (consistent.opening event)

theorem Consistent.run (consistent : router.Consistent state)
    (events : List (Environment × RouterEvent)) :
    router.Consistent (router.run state events) := by
  induction events generalizing state with
  | nil => exact consistent
  | cons first rest ih => exact ih (consistent.step first.1 first.2)

theorem consistent_run_initial (router : Router) (events : List (Environment × RouterEvent)) :
    router.Consistent (router.run .initial events) :=
  (consistent_initial router).run events

/-- At every moment of a run, no address is both known and being resolved.  There
is one request for a target at most.  It was sent at least once, at most as often
as allowed and not later than now, and it is sent through the interface of the
router through which its oldest frame is to leave.  Every frame that waits holds
an intact datagram on its way to the target, and if it came from elsewhere, the
datagram may be forwarded. -/
theorem waiting_frames_of_run (router : Router) (events : List (Environment × RouterEvent)) :
    let state := router.run .initial events
    (∀ entry ∈ state.neighbors.entries,
      entry.isLive router.settings.cacheLifetime state.now = true →
        state.pending.find? entry.address = none) ∧
    (state.pending.map PendingRequest.target).Nodup ∧
    ∀ request ∈ state.pending,
      (1 ≤ request.attempts.toNat ∧
        request.attempts.toNat ≤ max 1 router.settings.maximumAttempts.toNat ∧
        request.lastSent ≤ state.now) ∧
      (∃ oldest younger packet route egress, request.frames = oldest :: younger ∧
        Ipv4Packet.ofFrame oldest.octets = .ok packet ∧
        router.routes.lookup packet.destination = some route ∧
        egress ∈ router.interfaces.all ∧ egress.name = route.interface ∧
        request.interface = route.interface) ∧
      ∀ frame ∈ request.frames,
        EthernetFrame.headerLength ≤ frame.octets.length ∧
        frame.octets.length ≤ EthernetFrame.maximumLength ∧
        ∃ packet route,
          Ipv4Packet.ofOctets (EthernetFrame.mk frame.octets).payload = .ok packet ∧
          packet.verifyChecksum = .ok () ∧
          router.routes.lookup packet.destination = some route ∧
          route.nextHop packet.destination = request.target ∧
          ∀ name, frame.origin = .forwarded name →
            2 ≤ packet.timeToLive.toNat ∧
            (∀ interface ∈ router.interfaces.all, interface.address ≠ packet.destination) ∧
            ∃ arrival ∈ router.interfaces.all, arrival.name = name := by
  intro state
  have consistent : router.Consistent state := consistent_run_initial router events
  refine ⟨?_, consistent.distinctTargets, ?_⟩
  · intro entry member live
    have known : router.hardwareAddress? state entry.address = some entry.mac :=
      NeighborCache.lookup_eq_some_iff.mpr
        ⟨entry, (find?_key_eq_some_iff consistent.distinctNeighbors).mpr ⟨member, rfl⟩,
          by simpa [NeighborEntry.isLive] using live, rfl⟩
    exact consistent.find?_eq_none known
  · intro request waiting
    have sound := consistent.sound request waiting
    refine ⟨⟨sound.attempted, sound.limited, sound.sentBefore⟩, ?_, ?_⟩
    · obtain ⟨oldest, younger, egress, frames, interface, packet, route, admits, leaves, -⟩ :=
        sound.oldest
      have name : egress.name = route.interface := Interfaces.name_of_byName? leaves
      exact ⟨oldest, younger, packet, route, egress, frames, admits.readable, admits.routed,
        List.mem_of_find?_eq_some leaves, name, interface.symm.trans name⟩
    · intro frame member
      obtain ⟨egress, packet, route, admits, -, nextHop⟩ := sound.deliverable frame member
      obtain ⟨long, short, read⟩ := Ipv4Packet.ofFrame_eq_ok_iff.mp admits.readable
      refine ⟨long, short, packet, route, read, admits.intact, admits.routed, nextHop.symm, ?_⟩
      intro name forwarded
      obtain ⟨lively, notOwned, arrival, found⟩ := admits.forwardable name forwarded
      exact ⟨lively, owns_eq_false_iff.mp notOwned, arrival, List.mem_of_find?_eq_some found,
        Interfaces.name_of_byName? found⟩

end Router

end Ipv4Router
