import Ipv4Router.Proofs.HandedFrames
import Ipv4Router.Proofs.LongestPrefix

/-!
# The ledger of datagrams

For every next hop, the datagrams that were accepted for it are exactly those
that are done with, followed by those that still wait, all in the order in which
they were accepted.  A datagram is done with once it was handed to the link or
given up.  So none is lost, none is dealt with twice and none overtakes another
on its way to the same next hop.

What lies between two stages of a turn is accounted for entry by entry of the
journal.  Each action accounts for the entries it writes; turns and runs do so
because accounts of consecutive stages add up.

That the journal leaves out nothing is seen at the arrivals: a datagram to forward
is entered as accepted in the turn in which it arrives.
-/

namespace Ipv4Router

namespace JournalEntry

/-- The frame, if any, that an entry adds to those accepted for a next hop.  A
frame that comes round again is not accepted anew unless it has become another. -/
def acceptedFor (nextHop : Ipv4Address) : JournalEntry → List DatagramFrame
  | accepted outbound => if outbound.nextHop = nextHop then [outbound.frame] else []
  | resumed frame outbound =>
      if outbound.nextHop = nextHop ∧ outbound.frame ≠ frame then [outbound.frame] else []
  | handed _ _ _ => []
  | abandoned _ _ => []

/-- The frame, if any, that an entry adds to those done with for a next hop. -/
def finishedFor (nextHop : Ipv4Address) : JournalEntry → List DatagramFrame
  | accepted _ => []
  | resumed _ _ => []
  | handed _ _ none => []
  | handed _ _ (some outbound) =>
      if outbound.nextHop = nextHop then [outbound.frame] else []
  | abandoned target frame => if target = nextHop then [frame] else []

end JournalEntry

/-- The entries account for the change of the frames that wait for a next hop from
those before to those after. -/
def Accounts (nextHop : Ipv4Address) (before : List DatagramFrame)
    (entries : List JournalEntry) (after : List DatagramFrame) : Prop :=
  before ++ entries.flatMap (JournalEntry.acceptedFor nextHop) =
    entries.flatMap (JournalEntry.finishedFor nextHop) ++ after

section Accounts

variable {nextHop : Ipv4Address} {before between after : List DatagramFrame}
  {entries later : List JournalEntry}

theorem Accounts.none (waiting : List DatagramFrame) : Accounts nextHop waiting [] waiting := by
  simp [Accounts]

theorem Accounts.append (first : Accounts nextHop before entries between)
    (second : Accounts nextHop between later after) :
    Accounts nextHop before (entries ++ later) after := by
  unfold Accounts at first second ⊢
  rw [List.flatMap_append, List.flatMap_append, ← List.append_assoc, first, List.append_assoc,
    second, List.append_assoc]

theorem accounts_accepted (waiting : List DatagramFrame) (outbound : Outbound) :
    Accounts nextHop waiting [.accepted outbound]
      (waiting ++ if outbound.nextHop = nextHop then [outbound.frame] else []) := by
  simp [Accounts, JournalEntry.acceptedFor, JournalEntry.finishedFor]

theorem accounts_resumed (waiting : List DatagramFrame) (outbound : Outbound) :
    Accounts nextHop waiting [.resumed outbound.frame outbound] waiting := by
  simp [Accounts, JournalEntry.acceptedFor, JournalEntry.finishedFor]

theorem accounts_handed (waiting : List DatagramFrame) (outbound : Outbound)
    (transmission : Transmission) (refusal : Option LinkFailure) :
    Accounts nextHop ((if outbound.nextHop = nextHop then [outbound.frame] else []) ++ waiting)
      [.handed transmission refusal (some outbound)] waiting := by
  simp [Accounts, JournalEntry.acceptedFor, JournalEntry.finishedFor]

theorem accounts_abandoned (waiting : List DatagramFrame) (target : Ipv4Address)
    (frame : DatagramFrame) :
    Accounts nextHop ((if target = nextHop then [frame] else []) ++ waiting)
      [.abandoned target frame] waiting := by
  simp [Accounts, JournalEntry.acceptedFor, JournalEntry.finishedFor]

theorem accounts_of_arp (waiting : List DatagramFrame)
    (arp : ∀ entry ∈ entries, ∃ transmission refusal,
      entry = .handed transmission refusal none) :
    Accounts nextHop waiting entries waiting := by
  have silent : ∀ entry ∈ entries,
      entry.acceptedFor nextHop = [] ∧ entry.finishedFor nextHop = [] := by
    intro entry member
    obtain ⟨transmission, refusal, rfl⟩ := arp entry member
    exact ⟨rfl, rfl⟩
  have noneAccepted : entries.flatMap (JournalEntry.acceptedFor nextHop) = [] :=
    List.flatMap_eq_nil_iff.mpr (fun entry member => (silent entry member).1)
  have noneFinished : entries.flatMap (JournalEntry.finishedFor nextHop) = [] :=
    List.flatMap_eq_nil_iff.mpr (fun entry member => (silent entry member).2)
  rw [Accounts, noneAccepted, noneFinished, List.append_nil, List.nil_append]

end Accounts

/-- The frames in hand for a next hop, in the order in which they will be dealt
with. -/
def inHandFor (nextHop : Ipv4Address) (inHand : List FrameInHand) : List DatagramFrame :=
  (inHand.filter (fun held => held.target = nextHop)).map FrameInHand.frame

/-- The frames for a next hop that are not done with: those in hand and, behind
them, those that wait. -/
def Stage.unfinishedFor (stage : Stage) (nextHop : Ipv4Address) : List DatagramFrame :=
  inHandFor nextHop stage.inHand ++ stage.turn.state.pending.framesFor nextHop

/-- What is written into the journal from one stage to another accounts for all
changes. -/
def Stage.AccountedUntil (stage last : Stage) : Prop :=
  ∃ entries, last.turn.journal = stage.turn.journal ++ entries ∧
    ∀ nextHop,
      Accounts nextHop (stage.unfinishedFor nextHop) entries (last.unfinishedFor nextHop)

theorem Stage.AccountedUntil.trans {stage middle last : Stage}
    (first : stage.AccountedUntil middle) (second : middle.AccountedUntil last) :
    stage.AccountedUntil last := by
  obtain ⟨entries, journal, accounts⟩ := first
  obtain ⟨later, laterJournal, laterAccounts⟩ := second
  refine ⟨entries ++ later, ?_, fun nextHop => (accounts nextHop).append (laterAccounts nextHop)⟩
  rw [laterJournal, journal, List.append_assoc]

section InHand

variable {nextHop target : Ipv4Address} {frame : DatagramFrame} {rest : List FrameInHand}

theorem inHandFor_cons :
    inHandFor nextHop (⟨target, frame⟩ :: rest) =
      (if target = nextHop then [frame] else []) ++ inHandFor nextHop rest := by
  by_cases same : target = nextHop <;> simp [inHandFor, same]

theorem inHandFor_eq_nil {inHand : List FrameInHand}
    (none : ∀ held ∈ inHand, held.target ≠ nextHop) : inHandFor nextHop inHand = [] := by
  simpa [inHandFor, List.filter_eq_nil_iff] using none

theorem inHandFor_map_mk_self (frames : List DatagramFrame) :
    inHandFor target (frames.map (FrameInHand.mk target)) = frames := by
  simp [inHandFor, List.filter_map, Function.comp_def]

theorem inHandFor_map_mk_of_ne (distinct : target ≠ nextHop) (frames : List DatagramFrame) :
    inHandFor nextHop (frames.map (FrameInHand.mk target)) = [] := by
  apply inHandFor_eq_nil
  intro held member
  obtain ⟨frame, -, rfl⟩ := List.mem_map.mp member
  exact distinct

theorem inHandFor_flatMap_inHand {requests : PendingRequests} (distinct : requests.Distinct) :
    inHandFor nextHop (requests.flatMap PendingRequest.inHand) =
      requests.framesFor nextHop := by
  induction requests with
  | nil => rfl
  | cons request rest ih =>
      obtain ⟨fresh, restDistinct⟩ := List.nodup_cons.mp distinct
      have split : inHandFor nextHop (List.flatMap PendingRequest.inHand (request :: rest)) =
          inHandFor nextHop request.inHand ++
            inHandFor nextHop (rest.flatMap PendingRequest.inHand) := by
        simp [inHandFor]
      rw [split, ih restDistinct, PendingRequest.inHand]
      by_cases same : request.target = nextHop
      · subst same
        have restUnknown : PendingRequests.find? rest request.target = none :=
          PendingRequests.find?_eq_none_iff.mpr
            (fun later member equal => fresh (List.mem_map.mpr ⟨later, member, equal⟩))
        rw [inHandFor_map_mk_self, PendingRequests.framesFor_eq_nil restUnknown,
          PendingRequests.framesFor, PendingRequests.find?_cons_self, List.append_nil]
        rfl
      · rw [inHandFor_map_mk_of_ne same, PendingRequests.framesFor, PendingRequests.framesFor,
          PendingRequests.find?_cons_of_ne same, List.nil_append]

end InHand

namespace Router

variable {router : Router} {environment : Environment} {state : RouterState}

/-- A datagram that is let wait is the last to wait for its next hop, and the only
change to what waits. -/
theorem framesFor_await (state : RouterState) (outbound : Outbound) (nextHop : Ipv4Address) :
    (state.await outbound).pending.framesFor nextHop =
      state.pending.framesFor nextHop ++
        if outbound.nextHop = nextHop then [outbound.frame] else [] := by
  by_cases same : outbound.nextHop = nextHop
  · subst same
    rw [if_pos rfl]
    exact PendingRequests.framesFor_enqueue_self
  · rw [if_neg same, List.append_nil]
    exact congrArg (fun found => Option.elim found [] PendingRequest.frames)
      (PendingRequests.find?_enqueue_of_ne same)

/-- A new datagram is handed over at once if its next hop is known, and then
nothing for this next hop is unfinished.  Otherwise it waits behind all others. -/
theorem accountedUntil_accept {inHand : List FrameInHand} {turn : Turn} {outbound : Outbound}
    (consistent : router.Consistent turn.state) (delivers : router.Delivers outbound)
    (behind : router.hardwareAddress? turn.state outbound.nextHop ≠ none →
      ∀ held ∈ inHand, held.target ≠ outbound.nextHop) :
    Stage.AccountedUntil ⟨inHand, turn⟩
      ⟨inHand, (router.output environment (turn.record (.accepted outbound)) outbound).1⟩ := by
  cases known : router.hardwareAddress? (turn.record (.accepted outbound)).state
      outbound.nextHop with
  | some mac =>
      rw [output_of_known known]
      refine ⟨[.accepted outbound, _], List.append_assoc _ _ _, fun nextHop => ?_⟩
      refine (accounts_accepted _ outbound).append ?_
      have unfinished : Stage.unfinishedFor ⟨inHand, turn⟩ outbound.nextHop = [] := by
        have reached : router.hardwareAddress? turn.state outbound.nextHop ≠ none :=
          fun unknown => Option.some_ne_none mac (known.symm.trans unknown)
        rw [Stage.unfinishedFor, inHandFor_eq_nil (behind reached),
          PendingRequests.framesFor_eq_nil (consistent.find?_eq_none known), List.append_nil]
      -- Where nothing is unfinished, the last datagram is the first as well.
      have commute : Stage.unfinishedFor ⟨inHand, turn⟩ nextHop ++
            (if outbound.nextHop = nextHop then [outbound.frame] else []) =
          (if outbound.nextHop = nextHop then [outbound.frame] else []) ++
            Stage.unfinishedFor ⟨inHand, turn⟩ nextHop := by
        split
        · next same => rw [← same, unfinished, List.append_nil, List.nil_append]
        · rw [List.append_nil, List.nil_append]
      rw [commute]
      exact accounts_handed _ outbound _ _
  | none =>
      obtain ⟨asked, waiting, onlyAsked⟩ := output_of_unknown environment delivers known
      rw [waiting]
      refine ⟨.accepted outbound :: asked, List.append_assoc _ _ _, fun nextHop => ?_⟩
      have joined : Stage.unfinishedFor
            ⟨inHand, ⟨turn.state.await outbound, turn.journal ++ [.accepted outbound] ++ asked⟩⟩
            nextHop =
          Stage.unfinishedFor ⟨inHand, turn⟩ nextHop ++
            if outbound.nextHop = nextHop then [outbound.frame] else [] := by
        simp only [Stage.unfinishedFor, framesFor_await, List.append_assoc]
      refine Accounts.append (accounts_accepted _ outbound) ?_
      rw [← joined]
      refine accounts_of_arp _ ?_
      intro entry member
      obtain ⟨refusal, rfl⟩ := onlyAsked entry member
      exact ⟨_, refusal, rfl⟩

theorem Action.accountedUntil {stage next : Stage}
    (action : router.Action environment stage next)
    (consistent : router.Consistent stage.turn.state) : stage.AccountedUntil next := by
  cases action with
  | accept delivers behind => exact accountedUntil_accept consistent delivers behind
  | @resume rest turn outbound mac delivers known =>
      have stillKnown : router.hardwareAddress?
          (turn.record (.resumed outbound.frame outbound)).state outbound.nextHop = some mac :=
        known
      rw [output_of_known stillKnown]
      refine ⟨[.resumed outbound.frame outbound, _], List.append_assoc _ _ _, fun nextHop => ?_⟩
      refine (accounts_resumed _ outbound).append ?_
      rw [Stage.unfinishedFor, inHandFor_cons, List.append_assoc]
      exact accounts_handed _ outbound _ _
  | @abandon rest turn target frame =>
      refine ⟨[.abandoned target frame], rfl, fun nextHop => ?_⟩
      rw [Stage.unfinishedFor, inHandFor_cons, List.append_assoc]
      exact accounts_abandoned _ target frame
  | ask known => exact ⟨[_], rfl, fun nextHop => accounts_of_arp _ (by simp)⟩
  | reply known owned => exact ⟨[_], rfl, fun nextHop => accounts_of_arp _ (by simp)⟩

theorem Course.accountedUntil {stage last : Stage}
    (course : router.Course environment stage last)
    (consistent : router.Consistent stage.turn.state) : stage.AccountedUntil last := by
  induction course with
  | refl => exact ⟨[], by simp, fun nextHop => Accounts.none _⟩
  | tail earlier action ih =>
      exact ih.trans (action.accountedUntil (Course.consistent earlier consistent))

/-- A frame that the router accepts on an interface, to forward the datagram in it. -/
structure Forwardable (router : Router) (name : String) (octets : Octets)
    (packet : Ipv4Packet) (route : Route) : Prop where
  admissible : router.Admissible name octets
  admits : router.Admits ⟨octets, .forwarded name⟩ packet route

namespace Forwardable

variable {name : String} {octets : Octets} {packet : Ipv4Packet} {route : Route}

theorem delivers (forwardable : router.Forwardable name octets packet route)
    (connected : router.Connected) :
    ∃ egress, router.Delivers
      ⟨egress, route.nextHop packet.destination, ⟨octets, .forwarded name⟩⟩ := by
  have admits := forwardable.admits
  obtain ⟨egress, leaves⟩ := connected route (RoutingTable.mem_of_lookup admits.routed)
  exact ⟨egress, packet, route, admits, leaves, rfl⟩

/-- A datagram to forward is output as soon as it arrives. -/
theorem step_eq (forwardable : router.Forwardable name octets packet route)
    (connected : router.Connected) (environment : Environment) (state : RouterState) :
    ∃ outbound, router.Delivers outbound ∧
      outbound.nextHop = route.nextHop packet.destination ∧
      outbound.frame = ⟨octets, .forwarded name⟩ ∧
      router.step environment state (.arrival name octets) =
        router.output environment ((Turn.start state).record (.accepted outbound)) outbound := by
  have admits := forwardable.admits
  obtain ⟨-, -, arrival, found⟩ := admits.forwardable name rfl
  obtain ⟨egress, delivers⟩ := forwardable.delivers connected
  have decided := delivers.dispatchAgain_eq
  simp only [dispatchAgain, found] at decided
  have notArp : EthernetFrame.ipv4Type ≠ EthernetFrame.arpType := by decide
  refine ⟨_, delivers, rfl, rfl, ?_⟩
  simp only [step, receive_of_admissible found forwardable.admissible, admits.labelled,
    if_neg notArp, if_true, receiveDatagram, submit, submitAs, decided]

/-- The arrival of a datagram to forward writes that it was accepted, and besides only what is
handed to the link. -/
theorem journal_step (forwardable : router.Forwardable name octets packet route)
    (connected : router.Connected) (environment : Environment) (state : RouterState) :
    ∃ outbound handed, outbound.nextHop = route.nextHop packet.destination ∧
      outbound.frame = ⟨octets, .forwarded name⟩ ∧
      (router.step environment state (.arrival name octets)).1.journal =
        .accepted outbound :: handed ∧
      ∀ entry ∈ handed, ∃ transmission refusal datagram,
        entry = .handed transmission refusal datagram := by
  obtain ⟨outbound, delivers, towards, carried, taken⟩ :=
    forwardable.step_eq connected environment state
  refine ⟨outbound, ?_⟩
  rw [taken]
  cases known : router.hardwareAddress? ((Turn.start state).record (.accepted outbound)).state
      outbound.nextHop with
  | some mac =>
      rw [output_of_known known]
      refine ⟨[_], towards, carried, rfl, ?_⟩
      intro entry member
      exact ⟨_, _, _, List.mem_singleton.mp member⟩
  | none =>
      obtain ⟨asked, waiting, onlyAsked⟩ := output_of_unknown environment delivers known
      rw [waiting]
      refine ⟨asked, towards, carried, rfl, ?_⟩
      intro entry member
      obtain ⟨refusal, rfl⟩ := onlyAsked entry member
      exact ⟨_, refusal, none, rfl⟩

/-- A datagram to forward is accepted once, when it arrives, and for its next hop only. -/
theorem acceptedFor_step (forwardable : router.Forwardable name octets packet route)
    (connected : router.Connected) (environment : Environment) (state : RouterState)
    (nextHop : Ipv4Address) :
    (router.step environment state (.arrival name octets)).1.journal.flatMap
        (JournalEntry.acceptedFor nextHop) =
      if route.nextHop packet.destination = nextHop then [⟨octets, .forwarded name⟩] else [] := by
  obtain ⟨outbound, handed, towards, carried, journal, onlyHanded⟩ :=
    forwardable.journal_step connected environment state
  have nothingElse : handed.flatMap (JournalEntry.acceptedFor nextHop) = [] := by
    rw [List.flatMap_eq_nil_iff]
    intro entry member
    obtain ⟨transmission, refusal, datagram, rfl⟩ := onlyHanded entry member
    rfl
  rw [journal, List.flatMap_cons, nothingElse, List.append_nil, JournalEntry.acceptedFor, towards,
    carried]

end Forwardable

/-- The opening of a turn takes frames out of their queues, but finishes none. -/
theorem Consistent.unfinishedFor_opening (consistent : router.Consistent state)
    (event : RouterEvent) (nextHop : Ipv4Address) :
    (router.opening state event).unfinishedFor nextHop = state.pending.framesFor nextHop := by
  cases event with
  | advance duration => rfl
  | sweep =>
      rw [PendingRequests.framesFor_poll consistent.distinctTargets nextHop,
        ← inHandFor_flatMap_inHand consistent.distinctTargets.failed_poll]
      rfl
  | arrival name octets =>
      unfold Router.opening
      simp only
      split
      · next packet heard =>
        rw [Stage.unfinishedFor]
        by_cases same : packet.sourceAddress = nextHop
        · subst same
          have resolved : PendingRequests.find?
              (state.pending.resolve packet.sourceAddress).2 packet.sourceAddress = none :=
            PendingRequests.find?_resolve_self consistent.distinctTargets
          rw [inHandFor_map_mk_self]
          simp only [Turn.start, RouterState.learn, PendingRequests.framesFor_eq_nil resolved,
            List.append_nil]
        · have kept := PendingRequests.find?_resolve_of_ne consistent.distinctTargets
            (Ne.symm same)
          rw [inHandFor_map_mk_of_ne same]
          simp only [Turn.start, RouterState.learn, PendingRequests.framesFor, kept,
            List.nil_append]
      · rfl

theorem Consistent.accounts_step (consistent : router.Consistent state)
    (environment : Environment) (event : RouterEvent) (nextHop : Ipv4Address) :
    Accounts nextHop (state.pending.framesFor nextHop)
      (router.step environment state event).1.journal
      ((router.step environment state event).1.state.pending.framesFor nextHop) := by
  obtain ⟨entries, journal, accounts⟩ :=
    (step_course consistent environment event).accountedUntil (consistent.opening event)
  rw [journal_opening, List.nil_append] at journal
  have balanced := accounts nextHop
  rw [consistent.unfinishedFor_opening] at balanced
  rw [journal]
  exact balanced

theorem Consistent.accounts_run (consistent : router.Consistent state)
    (events : List (Environment × RouterEvent)) (nextHop : Ipv4Address) :
    Accounts nextHop (state.pending.framesFor nextHop) (router.journal state events)
      ((router.run state events).pending.framesFor nextHop) := by
  induction events generalizing state with
  | nil => exact Accounts.none _
  | cons first rest ih =>
      rw [journal_cons]
      exact (consistent.accounts_step first.1 first.2 nextHop).append
        (ih (consistent.step first.1 first.2))

/-- At every moment of a run, the datagrams that were accepted for a next hop are
those handed to the link or given up, followed by those that wait for it, each
once and in order.  Every frame handed to the link is the completed frame of the
datagram that the journal tells, or else an ARP packet. -/
theorem datagram_ledger (router : Router) (events : List (Environment × RouterEvent))
    (nextHop : Ipv4Address) :
    (router.journal .initial events).flatMap (JournalEntry.acceptedFor nextHop) =
      (router.journal .initial events).flatMap (JournalEntry.finishedFor nextHop) ++
        (router.run .initial events).pending.framesFor nextHop ∧
    (∀ transmission refusal outbound,
      .handed transmission refusal (some outbound) ∈ router.journal .initial events →
        ∃ mac, transmission = ⟨outbound.egress.name, outbound.complete mac⟩) ∧
    ∀ transmission refusal,
      .handed transmission refusal none ∈ router.journal .initial events →
        (EthernetFrame.mk transmission.frame).payloadType = EthernetFrame.arpType := by
  have truthful : ∀ entry ∈ router.journal .initial events,
      ∃ state, entry.Truthful router state := by
    intro entry member
    obtain ⟨outcome, taken, inTurn⟩ := List.mem_flatMap.mp member
    obtain ⟨before, environment, event, after, -, rfl⟩ := exists_step_of_mem_turns taken
    exact ⟨_, (consistent_run_initial router before).truthful_step environment event entry inTurn⟩
  refine ⟨(consistent_initial router).accounts_run events nextHop, ?_, ?_⟩
  · intro transmission refusal outbound member
    obtain ⟨state, -, mac, -, completed⟩ := truthful _ member
    exact ⟨mac, completed⟩
  · intro transmission refusal member
    obtain ⟨state, arp⟩ := truthful _ member
    exact arp

end Router

end Ipv4Router
