import Ipv4Router.RouterRun
import Ipv4Router.Proofs.CheckedCompletion
import Ipv4Router.Proofs.CheckedDecisions
import Ipv4Router.Proofs.PollingWalk
import Ipv4Router.Proofs.TurnActions

/-!
# Checked turns

A router in which every operation is checked, from the octets of a packet to the array
of pending requests.  Whatever it receives, in whichever state it is and however the
link and the clock behave, no check fails, and it does what the router does.

Nothing has to be known of the state for this.  A frame that waited is read and decided
about anew before any of its octets is relied on, and what is decided leaves a frame
that can be completed.
-/

namespace Ipv4Router

open Checked

theorem Checked.foldlM_eq {State Item : Type} {checkedNext : State → Item → Checked State}
    {next : State → Item → State}
    (same : ∀ state item, checkedNext state item = .ok (next state item))
    (items : List Item) (state : State) :
    items.foldlM checkedNext state = .ok (items.foldl next state) := by
  have pureNext : checkedNext = fun state item => pure (next state item) :=
    funext fun state => funext fun item => same state item
  rw [pureNext, List.foldlM_pure]
  rfl

/-- Fill the payload of an empty frame with an ARP packet and send the frame. -/
def Turn.checkedSendArp (environment : Environment) (turn : Turn) (interface : Interface)
    (destination : MacAddress) (packet : ArpPacket) :
    Checked (Turn × Except RouterError Unit) :=
  match EthernetFrame.ofOctets
      (List.replicate (EthernetFrame.headerLength + ArpPacket.length) 0) with
  | .error fault => return (turn, .error (.packet fault))
  | .ok frame => do
      let frame ← frame.checkedSetAddresses destination interface.mac
      let frame ← frame.checkedSetPayloadType EthernetFrame.arpType
      match ← packet.checkedWriteInto (← frame.checkedPayload) with
      | .error fault => return (turn, .error (.packet fault))
      | .ok payload =>
          let frame ← frame.checkedSetPayload payload
          return turn.transmit environment ⟨interface.name, frame.octets⟩ none

theorem Turn.checkedSendArp_eq (environment : Environment) (turn : Turn)
    (interface : Interface) (destination : MacAddress) (packet : ArpPacket) :
    turn.checkedSendArp environment interface destination packet =
      .ok (turn.sendArp environment interface destination packet) := by
  have accepted : EthernetFrame.ofOctets (EthernetFrame.assemble .unspecified .unspecified 0
      (List.replicate ArpPacket.length 0)) = .ok ⟨EthernetFrame.assemble .unspecified
        .unspecified 0 (List.replicate ArpPacket.length 0)⟩ := by
    rw [EthernetFrame.ofOctets_eq_ok_iff, EthernetFrame.length_assemble, List.length_replicate]
    exact ⟨by decide, by decide, rfl⟩
  have written : packet.writeInto (List.replicate ArpPacket.length 0) = .ok packet.toOctets := by
    simp [ArpPacket.writeInto]
  rw [checkedSendArp, EthernetFrame.replicate_eq_assemble, accepted]
  simp only [EthernetFrame.checkedSetAddresses_assemble, ok_bind,
    EthernetFrame.checkedSetPayloadType_assemble, EthernetFrame.checkedPayload_assemble,
    ArpPacket.checkedWriteInto_eq, written]
  rw [EthernetFrame.checkedSetPayload_assemble (by simp), ok_bind, sendArp_eq, pure_eq_ok]

namespace Router

variable (router : Router) (environment : Environment)

def checkedSolicit (turn : Turn) (solicitation : Solicitation) :
    Checked (Turn × Except RouterError Unit) :=
  match router.interfaces.byName? solicitation.interface with
  | none => return (turn, .error (.configuration (.unknownInterface solicitation.interface)))
  | some interface =>
      turn.checkedSendArp environment interface MacAddress.broadcast
        (arpRequest interface solicitation.target)

def checkedOutput (turn : Turn) (outbound : Outbound) :
    Checked (Turn × Except RouterError Unit) :=
  let state := turn.state
  match state.neighbors.lookup router.settings.cacheLifetime state.now outbound.nextHop with
  | some mac => do
      match ← outbound.checkedComplete mac with
      | .error fault => return (turn, .error (.packet fault))
      | .ok frame =>
          return turn.transmit environment ⟨outbound.egress.name, frame⟩ (some outbound)
  | none =>
      let (solicitation, pending) := state.pending.enqueue state.now outbound.nextHop
        outbound.frame outbound.egress.name
      let waiting := { turn with state := { state with pending } }
      match solicitation with
      | none => return (waiting, .ok ())
      | some solicitation => router.checkedSolicit environment waiting solicitation

def checkedSubmitAs (turn : Turn) (note : Outbound → JournalEntry)
    (decide : UInt16 → Checked (Except RouterError Outbound)) :
    Checked (Turn × Except RouterError Unit) := do
  match ← decide (environment.identification turn.journal.length) with
  | .error error => return (turn, .error error)
  | .ok outbound => router.checkedOutput environment (turn.record (note outbound)) outbound

variable {router environment} {turn : Turn}

theorem checkedSolicit_eq (solicitation : Solicitation) :
    router.checkedSolicit environment turn solicitation =
      .ok (router.solicit environment turn solicitation) := by
  unfold checkedSolicit solicit
  cases router.interfaces.byName? solicitation.interface with
  | none => rfl
  | some interface => exact Turn.checkedSendArp_eq _ _ _ _ _

theorem checkedOutput_eq {outbound : Outbound} (completable : outbound.Completable) :
    router.checkedOutput environment turn outbound =
      .ok (router.output environment turn outbound) := by
  unfold checkedOutput output
  simp only
  cases turn.state.neighbors.lookup router.settings.cacheLifetime turn.state.now
      outbound.nextHop with
  | some mac =>
      simp only [Outbound.checkedComplete_eq completable mac, ok_bind, pure_eq_ok]
  | none =>
      simp only
      cases (turn.state.pending.enqueue turn.state.now outbound.nextHop outbound.frame
          outbound.egress.name).1 with
      | none => rfl
      | some solicitation => exact checkedSolicit_eq solicitation

/-- The one thing that matters about a decision is that its frame can be completed. -/
theorem checkedSubmitAs_eq {note : Outbound → JournalEntry}
    {checkedDecide : UInt16 → Checked (Except RouterError Outbound)}
    {decide : UInt16 → Except RouterError Outbound}
    (same : ∀ identification, checkedDecide identification = .ok (decide identification))
    (completable : ∀ identification outbound,
      decide identification = .ok outbound → outbound.Completable) :
    router.checkedSubmitAs environment turn note checkedDecide =
      .ok (router.submitAs environment turn note decide) := by
  unfold checkedSubmitAs submitAs
  rw [same, ok_bind]
  cases decided : decide (environment.identification turn.journal.length) with
  | error error => rfl
  | ok outbound => exact checkedOutput_eq (completable _ outbound decided)

variable (router environment)

def checkedRelease (turn : Turn) (frame : DatagramFrame) : Checked Turn := do
  return (← router.checkedSubmitAs environment turn (.resumed frame)
    (fun identification => router.checkedDispatchAgain identification frame)).1

def checkedLearn (turn : Turn) (address : Ipv4Address) (mac : MacAddress) : Checked Turn := do
  let (request, pending) ← turn.state.pending.checkedResolve address
  let neighbors := turn.state.neighbors.insert turn.state.now address mac
  let informed : Turn := { turn with state := { turn.state with neighbors, pending } }
  match request with
  | none => return informed
  | some request => request.frames.foldlM (router.checkedRelease environment) informed

def checkedReceiveArp (turn : Turn) (arrival : Interface) (payload : Octets) :
    Checked (Turn × Except RouterError Unit) := do
  match ← ArpPacket.checkedOfOctets payload with
  | .error fault => return (turn, .error (.packet fault))
  | .ok packet =>
      match packet.operation with
      | .request =>
          if router.owns packet.targetAddress then
            turn.checkedSendArp environment arrival packet.sourceMac (arpReply arrival packet)
          else return (turn, .error .ignored)
      | .reply =>
          return (← router.checkedLearn environment turn packet.sourceAddress packet.sourceMac,
            .ok ())

def checkedReceive (turn : Turn) (name : String) (octets : Octets) :
    Checked (Turn × Except RouterError Unit) :=
  match router.interfaces.byName? name with
  | none => return (turn, .error .ignored)
  | some arrival =>
      match EthernetFrame.ofOctets octets with
      | .error fault => return (turn, .error (.packet fault))
      | .ok frame => do
          let destination ← frame.checkedDestination
          if destination ≠ arrival.mac ∧ destination ≠ MacAddress.broadcast then
            return (turn, .error .ignored)
          else
            let payloadType ← frame.checkedPayloadType
            if payloadType = EthernetFrame.arpType then
              router.checkedReceiveArp environment turn arrival (← frame.checkedPayload)
            else if payloadType = EthernetFrame.ipv4Type then
              router.checkedSubmitAs environment turn .accepted
                (fun identification => router.checkedDispatch identification arrival octets)
            else return (turn, .error .ignored)

variable {router environment}

theorem checkedRelease_eq (turn : Turn) (frame : DatagramFrame) :
    router.checkedRelease environment turn frame =
      .ok (router.release environment turn frame) := by
  rw [checkedRelease, checkedSubmitAs_eq (fun _ => checkedDispatchAgain_eq frame)
    (fun _ _ => completable_of_dispatchAgain)]
  rfl

theorem checkedLearn_eq (address : Ipv4Address) (mac : MacAddress) :
    router.checkedLearn environment turn address mac =
      .ok (router.learn environment turn address mac) := by
  simp only [checkedLearn, learn, PendingRequests.checkedResolve_eq, ok_bind]
  cases (turn.state.pending.resolve address).1 with
  | none => rfl
  | some request => exact foldlM_eq checkedRelease_eq request.frames _

theorem checkedReceiveArp_eq (arrival : Interface) (payload : Octets) :
    router.checkedReceiveArp environment turn arrival payload =
      .ok (router.receiveArp environment turn arrival payload) := by
  unfold checkedReceiveArp receiveArp
  rw [ArpPacket.checkedOfOctets_eq, ok_bind]
  cases ArpPacket.ofOctets payload with
  | error fault => rfl
  | ok packet =>
      cases operation : packet.operation with
      | request =>
          simp only [operation]
          split
          · exact Turn.checkedSendArp_eq _ _ _ _ _
          · rfl
      | reply =>
          simp only [operation, checkedLearn_eq, ok_bind]
          rfl

theorem checkedReceive_eq (name : String) (octets : Octets) :
    router.checkedReceive environment turn name octets =
      .ok (router.receive environment turn name octets) := by
  unfold checkedReceive receive
  cases router.interfaces.byName? name with
  | none => rfl
  | some arrival =>
  cases accepted : EthernetFrame.ofOctets octets with
  | error fault => rfl
  | ok frame =>
  have long := EthernetFrame.long_of_ofOctets accepted
  simp only [EthernetFrame.checkedDestination_eq long, EthernetFrame.checkedPayloadType_eq long,
    EthernetFrame.checkedPayload_eq long, ok_bind]
  split
  · rfl
  split
  · exact checkedReceiveArp_eq arrival frame.payload
  split
  · exact checkedSubmitAs_eq (fun _ => checkedDispatch_eq octets)
      (fun _ _ => completable_of_dispatch)
  · rfl

variable (router environment)

def checkedRetransmit (turn : Turn) (solicitation : Solicitation) : Checked Turn := do
  return (← router.checkedSolicit environment turn solicitation).1

def checkedAbandon (target : Ipv4Address) (turn : Turn) (frame : DatagramFrame) :
    Checked Turn := do
  return (← router.checkedSubmitAs environment (turn.record (.abandoned target frame)) .accepted
    (fun identification => router.checkedReportAbandoned identification frame)).1

def checkedFailRequest (turn : Turn) (request : PendingRequest) : Checked Turn :=
  request.frames.foldlM (router.checkedAbandon environment request.target) turn

def checkedSweep (turn : Turn) : Checked Turn := do
  let (_, neighbors) ← turn.state.neighbors.checkedExpire router.settings.cacheLifetime
    turn.state.now
  let polled ← turn.state.pending.checkedPoll router.schedule turn.state.now
  let swept : Turn := { turn with
    state := { turn.state with neighbors, pending := polled.remaining } }
  let resent ← polled.retransmit.foldlM (router.checkedRetransmit environment) swept
  polled.failed.foldlM (router.checkedFailRequest environment) resent

variable {router environment}

theorem checkedRetransmit_eq (turn : Turn) (solicitation : Solicitation) :
    router.checkedRetransmit environment turn solicitation =
      .ok (router.retransmit environment turn solicitation) := by
  rw [checkedRetransmit, checkedSolicit_eq]
  rfl

theorem checkedAbandon_eq (target : Ipv4Address) (turn : Turn) (frame : DatagramFrame) :
    router.checkedAbandon environment target turn frame =
      .ok (router.abandon environment target turn frame) := by
  rw [checkedAbandon, checkedSubmitAs_eq (fun _ => checkedReportAbandoned_eq frame)
    (fun _ _ decided => (delivers_of_reportAbandoned decided).completable)]
  rfl

theorem checkedFailRequest_eq (turn : Turn) (request : PendingRequest) :
    router.checkedFailRequest environment turn request =
      .ok (router.failRequest environment turn request) :=
  foldlM_eq (checkedAbandon_eq request.target) request.frames turn

theorem checkedSweep_eq (turn : Turn) :
    router.checkedSweep environment turn = .ok (router.sweep environment turn) := by
  unfold checkedSweep sweep
  simp only [NeighborCache.checkedExpire_eq, PendingRequests.checkedPoll_eq, ok_bind,
    foldlM_eq checkedRetransmit_eq, foldlM_eq checkedFailRequest_eq]

variable (router environment)

def checkedStep (state : RouterState) :
    RouterEvent → Checked (Turn × Except RouterError Unit)
  | .arrival interface octets =>
      router.checkedReceive environment (Turn.start state) interface octets
  | .advance duration => return (Turn.start (state.advance duration), .ok ())
  | .sweep => return (← router.checkedSweep environment (Turn.start state), .ok ())

/-- The turns in which a checked router handles some events, if no check fails. -/
def checkedTurns (state : RouterState) :
    List (Environment × RouterEvent) → Checked (List (Turn × Except RouterError Unit))
  | [] => return []
  | (environment, event) :: rest => do
      let outcome ← router.checkedStep environment state event
      return outcome :: (← checkedTurns outcome.1.state rest)

variable {router environment}

theorem checkedStep_eq (state : RouterState) (event : RouterEvent) :
    router.checkedStep environment state event =
      .ok (router.step environment state event) := by
  cases event with
  | arrival name octets => exact checkedReceive_eq name octets
  | advance duration => rfl
  | sweep =>
      rw [checkedStep, checkedSweep_eq]
      rfl

/-- No run stops at a check: whatever arrives, and whenever the router sweeps, its turns
are the same with and without them. -/
theorem no_check_fails (router : Router) (state : RouterState)
    (events : List (Environment × RouterEvent)) :
    router.checkedTurns state events = .ok (router.turns state events) := by
  induction events generalizing state with
  | nil => rfl
  | cons first rest ih =>
      obtain ⟨environment, event⟩ := first
      simp only [checkedTurns, checkedStep_eq, ok_bind, ih, turns]
      rfl

end Router

end Ipv4Router
