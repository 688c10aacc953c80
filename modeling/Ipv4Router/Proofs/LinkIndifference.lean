import Ipv4Router.Proofs.HandedFrames

/-!
# Links that fail

Whether the link takes a frame has no influence on what a router remembers, nor
on which frames it hands over next.  Two runs whose links behave differently, but
which are given the same events, go through the same states and hand over the
same frames in the same order.  Only the outcome reported for an event may
differ, between success and a failure of the link.

The proof relates the turns of the two runs.  Two turns are alike if they have
reached the same state and have written the same journal, apart from what the
link answered.  Every part of the router keeps turns alike.
-/

namespace Ipv4Router

namespace JournalEntry

/-- An entry without the answer of the link. -/
def withoutRefusal : JournalEntry → JournalEntry
  | accepted outbound => accepted outbound
  | resumed frame outbound => resumed frame outbound
  | handed transmission _ datagram => handed transmission none datagram
  | abandoned target frame => abandoned target frame

/-- The frame of an entry that was handed to the link. -/
def handedOver? : JournalEntry → Option Transmission
  | accepted _ => none
  | resumed _ _ => none
  | handed transmission _ _ => some transmission
  | abandoned _ _ => none

@[simp]
theorem handedOver?_withoutRefusal (entry : JournalEntry) :
    entry.withoutRefusal.handedOver? = entry.handedOver? := by
  cases entry <;> rfl

end JournalEntry

namespace Turn

/-- The frames that were handed to the link, in order. -/
def handedOver (turn : Turn) : List Transmission :=
  turn.journal.filterMap JournalEntry.handedOver?

/-- The frames that were handed to the link and that it takes, in order. -/
def takenBy (environment : Environment) (turn : Turn) : List Transmission :=
  turn.journal.zipIdx.filterMap (fun (entry, index) =>
    entry.handedOver?.filter (fun transmission =>
      (environment.link index transmission).isNone))

/-- Two turns that differ in nothing but the answers of the link. -/
structure Alike (first second : Turn) : Prop where
  state : first.state = second.state
  journal : first.journal.map JournalEntry.withoutRefusal =
    second.journal.map JournalEntry.withoutRefusal

end Turn

/-- Whether an event went well as far as the router is concerned: its outcome is
success or a failure of the link. -/
def FailsAtMostAtLink (result : Except RouterError Unit) : Prop :=
  result = .ok () ∨ ∃ failure, result = .error (.link failure)

/-- Two outcomes that differ in nothing but the answers of the link. -/
structure OutcomesAlike (first second : Turn × Except RouterError Unit) : Prop where
  turn : first.1.Alike second.1
  result : first.2 = second.2 ∨ FailsAtMostAtLink first.2 ∧ FailsAtMostAtLink second.2

/-- Two environments whose links may differ, and nothing else. -/
def Environment.SameButLink (first second : Environment) : Prop :=
  first.identification = second.identification

namespace Turn

variable {first second : Turn}

theorem Alike.handedOver (alike : first.Alike second) :
    first.handedOver = second.handedOver := by
  have erased : ∀ turn : Turn, turn.handedOver =
      (turn.journal.map JournalEntry.withoutRefusal).filterMap JournalEntry.handedOver? := by
    intro turn
    simp [Turn.handedOver, List.filterMap_map]
  rw [erased, erased, alike.journal]

theorem Alike.length_journal (alike : first.Alike second) :
    first.journal.length = second.journal.length := by
  simpa using congrArg List.length alike.journal

theorem Alike.record (alike : first.Alike second) {entry other : JournalEntry}
    (same : entry.withoutRefusal = other.withoutRefusal) :
    (first.record entry).Alike (second.record other) where
  state := alike.state
  journal := by simp [Turn.record, alike.journal, same]

theorem Alike.goOn (alike : first.Alike second) (state : RouterState) :
    Turn.Alike { first with state } { second with state } :=
  ⟨rfl, alike.journal⟩

theorem Alike.foldl {Item : Type} {act otherAct : Turn → Item → Turn}
    (keeps : ∀ (first second : Turn) (item : Item), first.Alike second →
      (act first item).Alike (otherAct second item))
    (items : List Item) (alike : first.Alike second) :
    (items.foldl act first).Alike (items.foldl otherAct second) := by
  induction items generalizing first second with
  | nil => exact alike
  | cons item rest ih => exact ih (keeps first second item alike)

theorem Alike.same (alike : first.Alike second) (result : Except RouterError Unit) :
    OutcomesAlike (first, result) (second, result) :=
  ⟨alike, Or.inl rfl⟩

theorem handedOver_record (turn : Turn) (entry : JournalEntry) :
    (turn.record entry).handedOver = turn.handedOver ++ entry.handedOver?.toList := by
  cases handed : entry.handedOver? <;> simp [handedOver, record, handed]

theorem handedOver_transmit (environment : Environment) (turn : Turn)
    (transmission : Transmission) (datagram : Option Outbound) :
    (turn.transmit environment transmission datagram).1.handedOver =
      turn.handedOver ++ [transmission] := by
  rw [transmit, handedOver_record]
  rfl

variable {environment other : Environment}

theorem failsAtMostAtLink_transmit (turn : Turn) (transmission : Transmission)
    (datagram : Option Outbound) :
    FailsAtMostAtLink (turn.transmit environment transmission datagram).2 := by
  unfold transmit
  simp only
  split
  · exact Or.inl rfl
  · next failure _ => exact Or.inr ⟨failure, rfl⟩

theorem Alike.transmit (alike : first.Alike second) (transmission : Transmission)
    (datagram : Option Outbound) :
    OutcomesAlike (first.transmit environment transmission datagram)
      (second.transmit other transmission datagram) where
  turn := alike.record rfl
  result := Or.inr ⟨failsAtMostAtLink_transmit first transmission datagram,
    failsAtMostAtLink_transmit second transmission datagram⟩

theorem Alike.sendArp (alike : first.Alike second) (interface : Interface)
    (destination : MacAddress) (packet : ArpPacket) :
    OutcomesAlike (first.sendArp environment interface destination packet)
      (second.sendArp other interface destination packet) := by
  rw [sendArp_eq, sendArp_eq]
  exact alike.transmit _ _

end Turn

namespace Router

variable {router : Router} {environment other : Environment} {first second : Turn}

theorem solicit_alike (alike : first.Alike second) (solicitation : Solicitation) :
    OutcomesAlike (router.solicit environment first solicitation)
      (router.solicit other second solicitation) := by
  unfold solicit
  split
  · exact alike.same _
  · exact alike.sendArp _ _ _

theorem output_alike (alike : first.Alike second) (outbound : Outbound) :
    OutcomesAlike (router.output environment first outbound)
      (router.output other second outbound) := by
  have state := alike.state
  unfold output
  rw [state]
  simp only
  split
  · exact alike.transmit _ _
  · split
    · exact (alike.goOn _).same _
    · exact solicit_alike (alike.goOn _) _

theorem submitAs_alike (same : environment.SameButLink other) (alike : first.Alike second)
    (note : Outbound → JournalEntry) (decide : UInt16 → Except RouterError Outbound) :
    OutcomesAlike (router.submitAs environment first note decide)
      (router.submitAs other second note decide) := by
  unfold submitAs
  rw [same, alike.length_journal]
  split
  · exact alike.same _
  · exact output_alike (alike.record rfl) _

theorem learn_alike (same : environment.SameButLink other) (alike : first.Alike second)
    (address : Ipv4Address) (mac : MacAddress) :
    (router.learn environment first address mac).Alike
      (router.learn other second address mac) := by
  rw [learn_eq, learn_eq, alike.state]
  apply Turn.Alike.foldl
  · intro one another frame alike
    exact (submitAs_alike same alike _ _).turn
  · exact alike.goOn _

theorem sweep_alike (same : environment.SameButLink other) (alike : first.Alike second) :
    (router.sweep environment first).Alike (router.sweep other second) := by
  rw [sweep_eq, sweep_eq, alike.state]
  apply Turn.Alike.foldl
  · intro one another held alike
    exact (submitAs_alike same (alike.record rfl) _ _).turn
  apply Turn.Alike.foldl
  · intro one another solicitation alike
    exact (solicit_alike alike solicitation).turn
  · exact alike.goOn _

theorem receiveArp_alike (same : environment.SameButLink other) (alike : first.Alike second)
    (arrival : Interface) (payload : Octets) :
    OutcomesAlike (router.receiveArp environment first arrival payload)
      (router.receiveArp other second arrival payload) := by
  unfold receiveArp
  split
  · exact alike.same _
  · split
    · split
      · exact alike.sendArp _ _ _
      · exact alike.same _
    · exact (learn_alike same alike _ _).same _

theorem receive_alike (same : environment.SameButLink other) (alike : first.Alike second)
    (name : String) (octets : Octets) :
    OutcomesAlike (router.receive environment first name octets)
      (router.receive other second name octets) := by
  unfold receive
  split
  · exact alike.same _
  split
  · exact alike.same _
  split
  · exact alike.same _
  split
  · exact receiveArp_alike same alike _ _
  split
  · unfold receiveDatagram submit
    exact submitAs_alike same alike _ _
  · exact alike.same _

theorem step_alike (same : environment.SameButLink other) (state : RouterState)
    (event : RouterEvent) :
    OutcomesAlike (router.step environment state event) (router.step other state event) := by
  have start : ∀ state, (Turn.start state).Alike (Turn.start state) :=
    fun state => ⟨rfl, rfl⟩
  cases event with
  | arrival name octets => exact receive_alike same (start state) name octets
  | advance duration => exact (start _).same _
  | sweep => exact (sweep_alike same (start state)).same _

end Router

namespace Turn

variable {environment : Environment} {turn : Turn}

theorem sent_record (entry : JournalEntry) :
    (turn.record entry).sent = turn.sent ++ entry.taken?.toList := by
  cases taken : entry.taken? <;> simp [sent, record, taken]

theorem takenBy_record (entry : JournalEntry) :
    (turn.record entry).takenBy environment = turn.takenBy environment ++
      (entry.handedOver?.filter (fun transmission =>
        (environment.link turn.journal.length transmission).isNone)).toList := by
  simp only [takenBy, record, List.zipIdx_append, List.filterMap_append, Nat.zero_add,
    List.zipIdx_singleton]
  cases taken : entry.handedOver?.filter (fun transmission =>
      (environment.link turn.journal.length transmission).isNone) with
  | none => simp only [List.filterMap_cons, List.filterMap_nil, taken, Option.toList_none]
  | some transmission =>
      simp only [List.filterMap_cons, List.filterMap_nil, taken, Option.toList_some]

theorem sent_transmit (sound : turn.sent = turn.takenBy environment)
    (transmission : Transmission) (datagram : Option Outbound) :
    (turn.transmit environment transmission datagram).1.sent =
      (turn.transmit environment transmission datagram).1.takenBy environment := by
  simp only [transmit]
  rw [sent_record, takenBy_record, sound]
  cases refusal : environment.link turn.journal.length transmission <;>
    simp [JournalEntry.taken?, JournalEntry.handedOver?, Option.filter, refusal]

end Turn

namespace Router

variable {router : Router} {environment : Environment}

theorem sent_output {turn : Turn} (sound : turn.sent = turn.takenBy environment)
    {outbound : Outbound} (delivers : router.Delivers outbound) :
    (router.output environment turn outbound).1.sent =
      (router.output environment turn outbound).1.takenBy environment := by
  cases known : router.hardwareAddress? turn.state outbound.nextHop with
  | some mac =>
      rw [output_of_known known]
      exact Turn.sent_transmit sound _ _
  | none =>
      cases found : turn.state.pending.find? outbound.nextHop with
      | some request =>
          rw [output_of_joined known found]
          exact sound
      | none =>
          rw [output_of_opened delivers known found]
          exact Turn.sent_transmit sound _ _

theorem Action.sent_eq {stage next : Stage} (action : router.Action environment stage next)
    (sound : stage.turn.sent = stage.turn.takenBy environment) :
    next.turn.sent = next.turn.takenBy environment := by
  have noted : ∀ {turn : Turn} {entry : JournalEntry}, entry.taken? = none →
      entry.handedOver? = none → turn.sent = turn.takenBy environment →
        (turn.record entry).sent = (turn.record entry).takenBy environment := by
    intro turn entry notTaken notHanded sound
    rw [Turn.sent_record, Turn.takenBy_record, notTaken, notHanded, sound]
    rfl
  cases action with
  | accept delivers behind => exact sent_output (noted rfl rfl sound) delivers
  | resume delivers known => exact sent_output (noted rfl rfl sound) delivers
  | abandon => exact noted rfl rfl sound
  | ask known => exact Turn.sent_transmit sound _ _
  | reply known owned => exact Turn.sent_transmit sound _ _

theorem Course.sent_eq {stage last : Stage} (course : router.Course environment stage last)
    (sound : stage.turn.sent = stage.turn.takenBy environment) :
    last.turn.sent = last.turn.takenBy environment :=
  course.preserves (fun action => action.sent_eq) sound

/-- The frames recorded as sent in a turn are those handed over that the link
takes. -/
theorem Consistent.sent_step {state : RouterState} (consistent : router.Consistent state)
    (environment : Environment) (event : RouterEvent) :
    (router.step environment state event).1.sent =
      (router.step environment state event).1.takenBy environment := by
  apply (step_course consistent environment event).sent_eq
  simp only [Turn.sent, Turn.takenBy, journal_opening]
  rfl

theorem turns_alike {first second : List (Environment × RouterEvent)}
    (same : List.Forall₂ (fun one other => one.1.SameButLink other.1 ∧ one.2 = other.2)
      first second) (state : RouterState) :
    List.Forall₂ OutcomesAlike (router.turns state first) (router.turns state second) := by
  induction same generalizing state with
  | nil => exact List.Forall₂.nil
  | @cons one other rest otherRest sameHead _ ih =>
      obtain ⟨environment, event⟩ := one
      obtain ⟨another, otherEvent⟩ := other
      obtain ⟨sameButLink, rfl⟩ := sameHead
      have alike : OutcomesAlike (router.step environment state event)
          (router.step another state event) := step_alike sameButLink state event
      simp only [turns]
      rw [alike.turn.state]
      exact List.Forall₂.cons alike (ih _)

theorem Consistent.sent_turns {state : RouterState} (consistent : router.Consistent state)
    (events : List (Environment × RouterEvent)) :
    List.Forall₂ (fun given outcome => outcome.1.sent = outcome.1.takenBy given.1)
      events (router.turns state events) := by
  induction events generalizing state with
  | nil => exact List.Forall₂.nil
  | cons first rest ih =>
      exact List.Forall₂.cons (consistent.sent_step first.1 first.2)
        (ih (consistent.step first.1 first.2))

/-- Runs that are given the same events but different links go through the same
states and hand over the same frames, event by event.  The outcome of an event is
the same as well, unless it is success or a failure of the link in both runs.  The
frames recorded as sent are those handed over that the link takes. -/
theorem link_indifference (router : Router)
    {first second : List (Environment × RouterEvent)}
    (same : List.Forall₂ (fun one other => one.1.SameButLink other.1 ∧ one.2 = other.2)
      first second) :
    List.Forall₂ (fun one other =>
        one.1.state = other.1.state ∧ one.1.handedOver = other.1.handedOver ∧
          (one.2 = other.2 ∨ FailsAtMostAtLink one.2 ∧ FailsAtMostAtLink other.2))
      (router.turns .initial first) (router.turns .initial second) ∧
    List.Forall₂ (fun given outcome => outcome.1.sent = outcome.1.takenBy given.1)
      first (router.turns .initial first) ∧
    List.Forall₂ (fun given outcome => outcome.1.sent = outcome.1.takenBy given.1)
      second (router.turns .initial second) := by
  refine ⟨(turns_alike same .initial).imp ?_, (consistent_initial router).sent_turns first,
    (consistent_initial router).sent_turns second⟩
  intro one other alike
  exact ⟨alike.turn.state, alike.turn.handedOver, alike.result⟩

/-- An ARP request is answered over a link that takes the reply and over one that
does not.  The outcomes differ, but the frame handed over is the same. -/
theorem link_indifference_reply :
    let interface : Interface := ⟨"eth0", ⟨2, 0, 0, 0, 0, 1⟩, ⟨10, 0, 0, 1⟩⟩
    let peer : Interface := ⟨"eth0", ⟨2, 0, 0, 0, 0, 2⟩, ⟨10, 0, 0, 2⟩⟩
    let router : Router := ⟨⟨[interface], List.nodup_singleton _⟩, .empty, {}⟩
    let question : RouterEvent := .arrival "eth0" (peer.arpRequestFor interface.address).frame
    let willing : Environment := ⟨fun _ _ => none, fun _ => 0⟩
    let refusing : Environment := ⟨fun _ _ => some (.reported "link down"), fun _ => 0⟩
    (router.step willing .initial question).2 = .ok () ∧
    (router.step refusing .initial question).2 = .error (.link (.reported "link down")) ∧
    List.Forall₂ (fun one other =>
        one.1.state = other.1.state ∧ one.1.handedOver = other.1.handedOver ∧
          (one.2 = other.2 ∨ FailsAtMostAtLink one.2 ∧ FailsAtMostAtLink other.2))
      (router.turns .initial [(willing, question)])
      (router.turns .initial [(refusing, question)]) := by
  intro interface peer router question willing refusing
  have same : List.Forall₂ (fun one other => one.1.SameButLink other.1 ∧ one.2 = other.2)
      [(willing, question)] [(refusing, question)] :=
    List.Forall₂.cons ⟨rfl, rfl⟩ List.Forall₂.nil
  exact ⟨by decide +kernel, by decide +kernel, (link_indifference router same).1⟩

end Router

end Ipv4Router
