import Ipv4Router.Proofs.LinkIndifference

/-!
# A router does not amplify

For every datagram that a router hands to the link or lets wait, it has been given one.
This holds although a datagram may wait, come round again, be given up, bring forth an
error about itself and let that error wait in turn: whatever takes a frame out of a queue
puts at most one datagram in its place.

So the datagrams handed over so far and the frames that wait are counted together.  Each
part of the router is described by what it adds to this count and by the frames it hands
over, and a datagram that arrives is the only thing that ever adds to the count.
-/

namespace Ipv4Router

/-- Whether a frame is labelled as holding an IPv4 datagram. -/
def Transmission.isDatagram (transmission : Transmission) : Bool :=
  (EthernetFrame.mk transmission.frame).payloadType = EthernetFrame.ipv4Type

/-- Whether a frame holds a datagram of somebody else, and not one of the router's own. -/
def DatagramFrame.isForwarded (frame : DatagramFrame) : Bool :=
  match frame.origin with
  | .forwarded _ => true
  | .originated => false

/-- The number of frames that wait in all queues. -/
def PendingRequests.frameCount (pending : PendingRequests) : Nat :=
  (pending.flatMap PendingRequest.frames).length

/-- The datagrams handed over in a turn and the frames that wait. -/
def Turn.datagramCount (turn : Turn) : Nat :=
  turn.handedOver.countP Transmission.isDatagram + turn.state.pending.frameCount

/-- From one turn to another, the datagrams handed over or waiting become more by at most
one number, and the frames handed over by at most another. -/
structure Turn.Charges (first last : Turn) (datagrams frames : Nat) : Prop where
  datagramCount : last.datagramCount ≤ first.datagramCount + datagrams
  handedOver : last.handedOver.length ≤ first.handedOver.length + frames

/-- Whether a frame arrives that is labelled as holding an IPv4 datagram. -/
def RouterEvent.bringsDatagram : RouterEvent → Bool
  | .arrival _ octets =>
      EthernetFrame.headerLength ≤ octets.length ∧
        (EthernetFrame.mk octets).payloadType = EthernetFrame.ipv4Type
  | .advance _ => false
  | .sweep => false

/-- The ARP reply that a frame holds. -/
def EthernetFrame.arpReply? (frame : EthernetFrame) : Option ArpPacket :=
  frame.arpPacket?.filter (fun packet => packet.operation = .reply)

/-- The greatest number of frames that a router hands over in an event: those that wait for
the sender of an ARP reply, and one for any other frame; in a sweep one for each request
that is sent again and one for each forwarded frame that is given up. -/
def Router.handoverLimit (router : Router) (state : RouterState) : RouterEvent → Nat
  | .arrival _ octets =>
      match (EthernetFrame.mk octets).arpReply? with
      | some reply => (state.pending.framesFor reply.sourceAddress).length
      | none => 1
  | .advance _ => 0
  | .sweep =>
      let polled := state.pending.poll router.schedule state.now
      polled.retransmit.length +
        (polled.failed.flatMap PendingRequest.frames).countP DatagramFrame.isForwarded

namespace PendingRequests

variable {pending : PendingRequests} {now : Nat} {target : Ipv4Address}

theorem frameCount_cons (request : PendingRequest) (rest : PendingRequests) :
    frameCount (request :: rest) = request.frames.length + rest.frameCount := by
  simp only [frameCount, List.flatMap_cons, List.length_append]

theorem frameCount_enqueue (frame : DatagramFrame) (interface : String) :
    frameCount (pending.enqueue now target frame interface).2 = pending.frameCount + 1 := by
  induction pending with
  | nil => rfl
  | cons request rest ih =>
      simp only [enqueue]
      split
      · simp only [frameCount_cons, List.length_append, List.length_singleton]
        omega
      · simp only [frameCount_cons, ih]
        omega

theorem frameCount_resolve :
    frameCount (pending.resolve target).2 + (pending.framesFor target).length =
      pending.frameCount := by
  induction pending with
  | nil => rfl
  | cons request rest ih =>
      simp only [resolve] at ih ⊢
      by_cases same : request.target = target
      · subst same
        rw [List.eraseP_cons_of_pos (by simp), framesFor, find?_cons_self, frameCount_cons]
        exact Nat.add_comm _ _
      · rw [List.eraseP_cons_of_neg (by simpa using same), framesFor, find?_cons_of_ne same,
          frameCount_cons, frameCount_cons, ← ih, framesFor]
        omega

theorem frameCount_poll (schedule : RetransmitSchedule) :
    (pending.poll schedule now).remaining.frameCount +
      frameCount (pending.poll schedule now).failed = pending.frameCount := by
  induction pending with
  | nil => rfl
  | cons request rest ih =>
      rw [frameCount_cons, ← ih]
      by_cases due : request.isDue schedule now
      · by_cases exhausted : request.isExhausted schedule
        · simp only [poll, due, exhausted, if_true, frameCount_cons]
          omega
        · simp only [poll, due, exhausted, if_true, if_false, Bool.false_eq_true,
            frameCount_cons, PendingRequest.resent]
          omega
      · simp only [poll, due, if_false, Bool.false_eq_true, frameCount_cons]
        omega

end PendingRequests

theorem countP_cons_toNat {Item : Type} (counts : Item → Bool) (item : Item)
    (rest : List Item) :
    (item :: rest).countP counts = (counts item).toNat + rest.countP counts := by
  rw [List.countP_cons, Nat.add_comm]
  cases counts item <;> rfl

/-- The frames of failed requests, once in hand, are counted as before. -/
theorem countP_inHand (failed : PendingRequests) :
    (failed.flatMap PendingRequest.inHand).countP (fun held => held.frame.isForwarded) =
      (failed.flatMap PendingRequest.frames).countP DatagramFrame.isForwarded := by
  have same : failed.flatMap PendingRequest.frames =
      (failed.flatMap PendingRequest.inHand).map FrameInHand.frame := by
    simp [List.map_flatMap, PendingRequest.inHand, Function.comp_def]
  rw [same, List.countP_map]
  rfl

namespace Turn

variable {first second third : Turn} {datagrams frames : Nat}

theorem Charges.refl (turn : Turn) : turn.Charges turn 0 0 :=
  ⟨Nat.le_refl _, Nat.le_refl _⟩

theorem Charges.trans {otherDatagrams otherFrames : Nat}
    (earlier : first.Charges second datagrams frames)
    (later : second.Charges third otherDatagrams otherFrames) :
    first.Charges third (datagrams + otherDatagrams) (frames + otherFrames) := by
  obtain ⟨datagramsBound, framesBound⟩ := earlier
  obtain ⟨laterDatagrams, laterFrames⟩ := later
  exact ⟨by omega, by omega⟩

theorem Charges.mono {moreDatagrams moreFrames : Nat}
    (charges : first.Charges second datagrams frames) (datagramsLe : datagrams ≤ moreDatagrams)
    (framesLe : frames ≤ moreFrames) : first.Charges second moreDatagrams moreFrames := by
  obtain ⟨datagramsBound, framesBound⟩ := charges
  exact ⟨by omega, by omega⟩

/-- What is done to some items one after the other costs as much as it costs for each. -/
theorem Charges.foldl {Item : Type} {work : Turn → Item → Turn} {datagrams frames : Item → Bool}
    (each : ∀ (turn : Turn) item,
      turn.Charges (work turn item) (datagrams item).toNat (frames item).toNat)
    (items : List Item) (turn : Turn) :
    turn.Charges (items.foldl work turn) (items.countP datagrams) (items.countP frames) := by
  induction items generalizing turn with
  | nil => exact .refl turn
  | cons item rest ih =>
      rw [countP_cons_toNat, countP_cons_toNat, List.foldl_cons]
      exact (each turn item).trans (ih _)

theorem charges_record_of_silent (turn : Turn) {entry : JournalEntry}
    (silent : entry.handedOver? = none) : turn.Charges (turn.record entry) 0 0 := by
  have same : (turn.record entry).handedOver = turn.handedOver := by
    rw [handedOver_record, silent]
    exact List.append_nil _
  constructor
  · rw [datagramCount, same]
    exact Nat.le_refl _
  · rw [same]
    exact Nat.le_refl _

theorem charges_transmit (environment : Environment) (turn : Turn)
    (transmission : Transmission) (datagram : Option Outbound) :
    turn.Charges (turn.transmit environment transmission datagram).1
      transmission.isDatagram.toNat 1 := by
  constructor
  · rw [datagramCount, datagramCount, handedOver_transmit, List.countP_append,
      List.countP_singleton]
    simp only [transmit, record]
    cases transmission.isDatagram <;> simp
    omega
  · rw [handedOver_transmit, List.length_append]
    exact Nat.le_refl _

theorem charges_sendArp (environment : Environment) (turn : Turn) (interface : Interface)
    (destination : MacAddress) (packet : ArpPacket) :
    turn.Charges (turn.sendArp environment interface destination packet).1 0 1 := by
  rw [sendArp_eq]
  refine (charges_transmit environment turn _ none).mono ?_ (Nat.le_refl 1)
  rw [Transmission.isDatagram, EthernetFrame.payloadType_assemble]
  decide

end Turn

namespace Router

variable {router : Router} {environment : Environment} {turn : Turn}

theorem charges_solicit (solicitation : Solicitation) :
    turn.Charges (router.solicit environment turn solicitation).1 0 1 := by
  unfold solicit
  split
  · exact (Turn.Charges.refl turn).mono (Nat.le_refl 0) (Nat.zero_le 1)
  · exact Turn.charges_sendArp environment turn _ _ _

/-- Output hands a datagram over or lets it wait, but not both. -/
theorem charges_output (outbound : Outbound) :
    turn.Charges (router.output environment turn outbound).1 1 1 := by
  simp only [output]
  split
  · exact (Turn.charges_transmit environment turn _ _).mono (Bool.toNat_le _) (Nat.le_refl 1)
  · have waits : turn.Charges { turn with state := turn.state.await outbound } 1 0 := by
      refine ⟨?_, Nat.le_refl _⟩
      simp only [Turn.datagramCount, RouterState.await, PendingRequests.frameCount_enqueue,
        Turn.handedOver]
      omega
    split
    · exact waits.mono (Nat.le_refl 1) (Nat.zero_le 1)
    · exact waits.trans (charges_solicit _)

theorem charges_submitAs {note : Outbound → JournalEntry}
    {decide : UInt16 → Except RouterError Outbound}
    (silent : ∀ outbound, (note outbound).handedOver? = none) :
    turn.Charges (router.submitAs environment turn note decide).1 1 1 := by
  unfold submitAs
  split
  · exact (Turn.Charges.refl turn).mono (Nat.zero_le 1) (Nat.zero_le 1)
  · exact (turn.charges_record_of_silent (silent _)).trans (charges_output _)

variable (router environment)

theorem charges_release (turn : Turn) (frame : DatagramFrame) :
    turn.Charges (router.release environment turn frame) true.toNat true.toNat :=
  charges_submitAs (fun _ => rfl)

/-- Whatever becomes of the frames that an ARP reply releases, they are no more than
waited before. -/
theorem charges_learn (turn : Turn) (address : Ipv4Address) (mac : MacAddress) :
    turn.Charges (router.learn environment turn address mac) 0
      (turn.state.pending.framesFor address).length := by
  rw [learn_eq]
  have taken : Turn.datagramCount { turn with state := turn.state.learn address mac } +
      (turn.state.pending.framesFor address).length = turn.datagramCount := by
    simp only [Turn.datagramCount, RouterState.learn, Turn.handedOver, Nat.add_assoc,
      PendingRequests.frameCount_resolve]
  have released := Turn.Charges.foldl (charges_release router environment)
    (turn.state.pending.framesFor address)
    { turn with state := turn.state.learn address mac }
  rw [List.countP_true] at released
  refine ⟨?_, released.handedOver⟩
  have bound := released.datagramCount
  omega

theorem charges_retransmit (turn : Turn) (solicitation : Solicitation) :
    turn.Charges (router.retransmit environment turn solicitation) false.toNat true.toNat :=
  charges_solicit solicitation

/-- An error may go out about a forwarded frame that is given up, but nothing about a frame
of the router's own. -/
theorem charges_abandon (turn : Turn) (held : FrameInHand) :
    turn.Charges (router.abandon environment held.target turn held.frame)
      held.frame.isForwarded.toNat held.frame.isForwarded.toNat := by
  obtain ⟨target, octets, origin⟩ := held
  have noted : turn.Charges (turn.record (.abandoned target ⟨octets, origin⟩)) 0 0 :=
    turn.charges_record_of_silent rfl
  cases origin with
  | forwarded name => exact noted.trans (charges_submitAs (fun _ => rfl))
  | originated => exact noted

theorem charges_sweep (turn : Turn) :
    let polled := turn.state.pending.poll router.schedule turn.state.now
    turn.Charges (router.sweep environment turn) 0
      (polled.retransmit.length +
        (polled.failed.flatMap PendingRequest.frames).countP DatagramFrame.isForwarded) := by
  intro polled
  rw [sweep_eq]
  have taken : Turn.datagramCount { turn with state := router.refresh turn.state } +
      PendingRequests.frameCount polled.failed = turn.datagramCount := by
    simp only [Turn.datagramCount, refresh, Turn.handedOver, Nat.add_assoc, polled,
      PendingRequests.frameCount_poll]
  have forwarded : (polled.failed.flatMap PendingRequest.frames).countP
      DatagramFrame.isForwarded ≤ PendingRequests.frameCount polled.failed :=
    List.countP_le_length
  have asked := Turn.Charges.foldl (charges_retransmit router environment)
    polled.retransmit { turn with state := router.refresh turn.state }
  have givenUp := Turn.Charges.foldl (charges_abandon router environment)
    (polled.failed.flatMap PendingRequest.inHand)
    (polled.retransmit.foldl (router.retransmit environment)
      { turn with state := router.refresh turn.state })
  have total := asked.trans givenUp
  simp only [List.countP_false, List.countP_true, countP_inHand, Function.const_apply,
    Nat.zero_add] at total
  exact ⟨Nat.le_trans total.datagramCount (by omega), total.handedOver⟩

theorem receive_of_arpReply? (turn : Turn) (name : String) {octets : Octets}
    {reply : ArpPacket} (holds : (EthernetFrame.mk octets).arpReply? = some reply) :
    (router.receive environment turn name octets).1 = turn ∨
      (router.receive environment turn name octets).1 =
        router.learn environment turn reply.sourceAddress reply.sourceMac := by
  obtain ⟨packet, isReply⟩ := Option.filter_eq_some_iff.mp holds
  obtain ⟨arp, read⟩ := EthernetFrame.arpPacket?_eq_some_iff.mp packet
  have reads : reply.operation = .reply := of_decide_eq_true isReply
  unfold receive
  split
  · exact Or.inl rfl
  split
  · exact Or.inl rfl
  next frame accepted =>
    obtain ⟨-, -, rfl⟩ := EthernetFrame.ofOctets_eq_ok_iff.mp accepted
    split
    · exact Or.inl rfl
    · right
      simp only [receiveArp, read, reads]

/-- A frame that holds no ARP reply makes the router hand over at most one frame, and makes
it count one datagram more only if it is labelled as holding one. -/
theorem charges_receive (turn : Turn) (name : String) {octets : Octets}
    (holdsNone : (EthernetFrame.mk octets).arpReply? = none) :
    turn.Charges (router.receive environment turn name octets).1
      (RouterEvent.arrival name octets).bringsDatagram.toNat 1 := by
  have unchanged : turn.Charges turn
      (RouterEvent.arrival name octets).bringsDatagram.toNat 1 :=
    (Turn.Charges.refl turn).mono (Nat.zero_le _) (Nat.zero_le _)
  unfold receive
  split
  · exact unchanged
  split
  · exact unchanged
  next frame accepted =>
    obtain ⟨long, -, rfl⟩ := EthernetFrame.ofOctets_eq_ok_iff.mp accepted
    split
    · exact unchanged
    split
    next arp =>
      unfold receiveArp
      split
      · exact unchanged
      next packet read =>
        split
        · split
          · exact (Turn.charges_sendArp environment turn _ _ _).mono (Nat.zero_le _)
              (Nat.le_refl 1)
          · exact unchanged
        next isReply =>
          have holds : (EthernetFrame.mk octets).arpReply? = some packet :=
            Option.filter_eq_some_iff.mpr
              ⟨EthernetFrame.arpPacket?_eq_some_iff.mpr ⟨arp, read⟩, decide_eq_true isReply⟩
          rw [holdsNone] at holds
          cases holds
    split
    next ipv4 =>
      have brought : (RouterEvent.arrival name octets).bringsDatagram = true := by
        simp only [RouterEvent.bringsDatagram, long, ipv4, and_self, decide_true]
      rw [brought]
      exact charges_submitAs (fun _ => rfl)
    · exact unchanged

/-- A turn counts one datagram more at most, and only if one has arrived. -/
theorem charges_step (router : Router) (environment : Environment) (state : RouterState)
    (event : RouterEvent) :
    (Turn.start state).Charges (router.step environment state event).1
      event.bringsDatagram.toNat (router.handoverLimit state event) := by
  cases event with
  | arrival name octets =>
      simp only [handoverLimit]
      cases holds : (EthernetFrame.mk octets).arpReply? with
      | none => exact charges_receive router environment (Turn.start state) name holds
      | some reply =>
          have heard := charges_learn router environment (Turn.start state)
            reply.sourceAddress reply.sourceMac
          rcases receive_of_arpReply? router environment (Turn.start state) name holds with
            refused | learnt
          · rw [step, refused]
            exact (Turn.Charges.refl _).mono (Nat.zero_le _) (Nat.zero_le _)
          · rw [step, learnt]
            exact heard.mono (Nat.zero_le _) (Nat.le_refl _)
  | advance duration => exact ⟨Nat.le_refl _, Nat.le_refl _⟩
  | sweep => exact charges_sweep router environment (Turn.start state)

theorem datagramCount_run (router : Router) (state : RouterState)
    (events : List (Environment × RouterEvent)) :
    ((router.turns state events).flatMap (fun outcome => outcome.1.handedOver)).countP
        Transmission.isDatagram + (router.run state events).pending.frameCount ≤
      state.pending.frameCount + events.countP (fun given => given.2.bringsDatagram) := by
  induction events generalizing state with
  | nil => exact Nat.le_of_eq (Nat.add_comm _ _)
  | cons first rest ih =>
      obtain ⟨environment, event⟩ := first
      have now := (charges_step router environment state event).datagramCount
      have later := ih (router.step environment state event).1.state
      have start : (Turn.start state).datagramCount = state.pending.frameCount :=
        Nat.zero_add _
      rw [start, Turn.datagramCount] at now
      simp only [countP_cons_toNat, turns, run, List.flatMap_cons, List.countP_append]
      omega

/-- At every moment of a run, the datagrams handed to the link and the frames that wait are
together no more than the datagrams that have arrived.  No event makes the router hand over
more frames than its limit. -/
theorem no_amplification (router : Router) (events : List (Environment × RouterEvent)) :
    ((router.turns .initial events).flatMap (fun outcome => outcome.1.handedOver)).countP
        Transmission.isDatagram + (router.run .initial events).pending.frameCount ≤
      events.countP (fun given => given.2.bringsDatagram) ∧
    ∀ environment event,
      (router.step environment (router.run .initial events) event).1.handedOver.length ≤
        router.handoverLimit (router.run .initial events) event := by
  constructor
  · have bound := datagramCount_run router .initial events
    have nothing : RouterState.initial.pending.frameCount = 0 := rfl
    rwa [nothing, Nat.zero_add] at bound
  · intro environment event
    have bound := (charges_step router environment (router.run .initial events) event).handedOver
    have nothing : (Turn.start (router.run .initial events)).handedOver.length = 0 := rfl
    rwa [nothing, Nat.zero_add] at bound

end Router

end Ipv4Router
