import Ipv4Router.Proofs.SweptRequests

/-!
# A silent network

While no frame arrives, a router that keeps sweeping comes to rest.  If it pauses long
enough before each sweep, every pending request is due in every sweep, so it is either sent
once more or given up.  As a request is sent so often and no oftener, none outlives as many
sweeps as the router makes attempts.

Errors about frames that are given up may bring forth new requests.  But nothing is said
about errors.  So there are at most two generations of requests: those of the start, and
those made on their account, for which only frames of the router's own wait.

A router that sweeps by the clock pauses long enough if its sweep interval is no shorter than
the interval after which it sends a request again.
-/

namespace Ipv4Router

/-- A sweep and the pauses before it. -/
structure QuietRound where
  pauses : List (Environment × Nat)
  environment : Environment

namespace QuietRound

/-- The time that passes before the sweep. -/
def duration (round : QuietRound) : Nat :=
  round.pauses.foldr (fun pause later => pause.2 + later) 0

def waits (round : QuietRound) : List (Environment × RouterEvent) :=
  round.pauses.map (fun pause => (pause.1, .advance pause.2))

def events (round : QuietRound) : List (Environment × RouterEvent) :=
  round.waits ++ [(round.environment, .sweep)]

end QuietRound

/-- Whether an event is no arrival of a frame. -/
def RouterEvent.isQuiet : RouterEvent → Bool
  | .arrival _ _ => false
  | .advance _ => true
  | .sweep => true

namespace Router

variable {router : Router} {state : RouterState}

/-- The number of sweeps that a request may outlive, if it is due in each. -/
def attemptLimit (router : Router) : Nat :=
  max 1 router.settings.maximumAttempts.toNat

theorem run_waits (round : QuietRound) :
    router.run state round.waits = state.advance round.duration := by
  obtain ⟨pauses, environment⟩ := round
  induction pauses generalizing state with
  | nil => rfl
  | cons pause rest ih =>
      have later : router.run (state.advance pause.2) (QuietRound.waits ⟨rest, environment⟩) =
          (state.advance pause.2).advance (QuietRound.duration ⟨rest, environment⟩) := ih
      refine later.trans ?_
      simp [RouterState.advance, QuietRound.duration, Nat.add_assoc]

theorem run_round (round : QuietRound) :
    router.run state round.events = (router.sweep round.environment
      (Turn.start (state.advance round.duration))).state := by
  rw [QuietRound.events, run_append, run_waits]
  rfl

/-- Every request that the poll of a long round leaves was there before and has been sent
once more. -/
theorem Consistent.survivor (consistent : router.Consistent state) {round : QuietRound}
    (long : router.settings.retransmitInterval ≤ round.duration) {request : PendingRequest}
    (member : request ∈ (router.refresh (state.advance round.duration)).pending) :
    ∃ old ∈ state.pending, old.target = request.target ∧
      request.attempts.toNat = old.attempts.toNat + 1 ∧ (old.HoldsOwn → request.HoldsOwn) := by
  obtain ⟨old, present, kept, rfl⟩ := PendingRequests.mem_remaining_poll.mp member
  have sentBefore := (consistent.sound old present).sentBefore
  have due : old.isDue router.schedule (state.advance round.duration).now = true := by
    apply decide_eq_true
    change router.settings.retransmitInterval ≤ state.now + round.duration - old.lastSent
    omega
  have notExhausted : old.isExhausted router.schedule = false := by
    simpa only [PendingRequest.fails, due, Bool.true_and] using kept
  rw [PendingRequest.afterPoll, if_pos due]
  exact ⟨old, present, rfl, PendingRequest.toNat_attempts_resent notExhausted _, id⟩

/-- Every request after a long round either has lived through it, or it is new and only
frames of the router's own wait for it. -/
theorem Consistent.grown_round (consistent : router.Consistent state) {round : QuietRound}
    (long : router.settings.retransmitInterval ≤ round.duration) {request : PendingRequest}
    (member : request ∈ (router.run state round.events).pending) :
    ((router.refresh (state.advance round.duration)).pending.find? request.target = none ∧
        request.HoldsOwn) ∨
      ∃ old ∈ state.pending, old.target = request.target ∧
        request.attempts.toNat = old.attempts.toNat + 1 ∧
          (old.HoldsOwn → request.HoldsOwn) := by
  rw [run_round] at member
  rcases (joinedByOwn_sweep _ _).grown request member with
    fresh | ⟨polled, left, target, attempts, holds⟩
  · exact Or.inl fresh
  · obtain ⟨old, present, oldTarget, counted, oldHolds⟩ := consistent.survivor long left
    exact Or.inr ⟨old, present, oldTarget.trans target, attempts ▸ counted,
      fun own => holds (oldHolds own)⟩

/-- The state of a router after some quiet rounds. -/
def runQuietly (router : Router) (state : RouterState) (rounds : List QuietRound) :
    RouterState :=
  router.run state (rounds.flatMap QuietRound.events)

theorem runQuietly_cons (round : QuietRound) (rest : List QuietRound) :
    router.runQuietly state (round :: rest) =
      router.runQuietly (router.run state round.events) rest := by
  rw [runQuietly, runQuietly, List.flatMap_cons, run_append]

theorem runQuietly_append (early late : List QuietRound) :
    router.runQuietly state (early ++ late) =
      router.runQuietly (router.runQuietly state early) late := by
  rw [runQuietly, List.flatMap_append, run_append, runQuietly, runQuietly]

theorem Consistent.runQuietly (consistent : router.Consistent state)
    (rounds : List QuietRound) : router.Consistent (router.runQuietly state rounds) :=
  consistent.run _

section Rounds

variable {rounds : List QuietRound}

/-- A request either has been sent in each of the rounds or is waited for by frames of the
router's own only. -/
theorem Consistent.aged_or_own (consistent : router.Consistent state) {age : Nat}
    (long : ∀ round ∈ rounds, router.settings.retransmitInterval ≤ round.duration)
    (start : ∀ request ∈ state.pending, age < request.attempts.toNat ∨ request.HoldsOwn) :
    ∀ request ∈ (router.runQuietly state rounds).pending,
      age + rounds.length < request.attempts.toNat ∨ request.HoldsOwn := by
  induction rounds generalizing state age with
  | nil => exact start
  | cons round rest ih =>
      have next : ∀ request ∈ (router.run state round.events).pending,
          age + 1 < request.attempts.toNat ∨ request.HoldsOwn := by
        intro request member
        rcases consistent.grown_round (long round List.mem_cons_self) member with
          ⟨-, own⟩ | ⟨old, present, -, counted, holds⟩
        · exact Or.inr own
        · rcases start old present with aged | own
          · exact Or.inl (by omega)
          · exact Or.inr (holds own)
      rw [runQuietly_cons, List.length_cons, ← Nat.add_assoc, Nat.add_right_comm]
      exact ih (consistent.run round.events)
        (fun later member => long later (List.mem_cons_of_mem _ member)) next

theorem Consistent.aged_of_own (consistent : router.Consistent state) {age : Nat}
    (long : ∀ round ∈ rounds, router.settings.retransmitInterval ≤ round.duration)
    (own : ∀ request ∈ state.pending, request.HoldsOwn)
    (start : ∀ request ∈ state.pending, age < request.attempts.toNat) :
    ∀ request ∈ (router.runQuietly state rounds).pending,
      age + rounds.length < request.attempts.toNat := by
  induction rounds generalizing state age with
  | nil => exact start
  | cons round rest ih =>
      have survivors : ∀ request ∈ (router.run state round.events).pending,
          age + 1 < request.attempts.toNat ∧ request.HoldsOwn := by
        intro request member
        have ownLater : ∀ old ∈ (state.advance round.duration).pending, old.HoldsOwn := own
        rw [run_round, state_sweep_of_own _ ownLater] at member
        obtain ⟨old, present, -, counted, holds⟩ :=
          consistent.survivor (long round List.mem_cons_self) member
        have aged := start old present
        exact ⟨by omega, holds (own old present)⟩
      rw [runQuietly_cons, List.length_cons, ← Nat.add_assoc, Nat.add_right_comm]
      exact ih (consistent.run round.events)
        (fun later member => long later (List.mem_cons_of_mem _ member))
        (fun request member => (survivors request member).2)
        (fun request member => (survivors request member).1)

/-- After as many rounds as the router makes attempts, only frames of its own wait. -/
theorem Consistent.own_runQuietly (consistent : router.Consistent state)
    (long : ∀ round ∈ rounds, router.settings.retransmitInterval ≤ round.duration)
    (enough : router.attemptLimit ≤ rounds.length) :
    ∀ request ∈ (router.runQuietly state rounds).pending, request.HoldsOwn := by
  intro request member
  have limited : request.attempts.toNat ≤ router.attemptLimit :=
    ((consistent.runQuietly rounds).sound request member).limited
  have attempted : ∀ old ∈ state.pending, 0 < old.attempts.toNat ∨ old.HoldsOwn :=
    fun old present => Or.inl (consistent.sound old present).attempted
  rcases consistent.aged_or_own long attempted request member with aged | own
  · omega
  · exact own

theorem Consistent.pending_runQuietly_of_own (consistent : router.Consistent state)
    (long : ∀ round ∈ rounds, router.settings.retransmitInterval ≤ round.duration)
    (enough : router.attemptLimit ≤ rounds.length)
    (own : ∀ request ∈ state.pending, request.HoldsOwn) :
    (router.runQuietly state rounds).pending = [] := by
  rw [List.eq_nil_iff_forall_not_mem]
  intro request member
  have limited : request.attempts.toNat ≤ router.attemptLimit :=
    ((consistent.runQuietly rounds).sound request member).limited
  have attempted : ∀ old ∈ state.pending, 0 < old.attempts.toNat :=
    fun old present => (consistent.sound old present).attempted
  have aged := consistent.aged_of_own long own attempted request member
  omega

/-- Among enough rounds there is one whose poll leaves no request for a given address. -/
theorem Consistent.exists_cleared (consistent : router.Consistent state) {age : Nat}
    (long : ∀ round ∈ rounds, router.settings.retransmitInterval ≤ round.duration)
    {address : Ipv4Address}
    (start : ∀ request ∈ state.pending, request.target = address → age < request.attempts.toNat)
    (nonempty : rounds ≠ []) (enough : router.attemptLimit ≤ age + rounds.length) :
    ∃ before round after, rounds = before ++ round :: after ∧
      (router.refresh ((router.runQuietly state before).advance round.duration)).pending.find?
        address = none := by
  induction rounds generalizing state age with
  | nil => exact absurd rfl nonempty
  | cons round rest ih =>
      have longRound := long round List.mem_cons_self
      cases polled : (router.refresh (state.advance round.duration)).pending.find? address with
      | none => exact ⟨[], round, rest, rfl, polled⟩
      | some left =>
          have member := List.mem_of_find?_eq_some polled
          have target := PendingRequests.target_of_find? polled
          have next : ∀ request ∈ (router.run state round.events).pending,
              request.target = address → age + 1 < request.attempts.toNat := by
            intro request member towards
            rcases consistent.grown_round longRound member with
              ⟨unknown, -⟩ | ⟨old, present, oldTarget, counted, -⟩
            · rw [towards, polled] at unknown
              cases unknown
            · have aged := start old present (oldTarget.trans towards)
              omega
          have restNonempty : rest ≠ [] := by
            obtain ⟨old, present, oldTarget, counted, -⟩ := consistent.survivor longRound member
            have aged := start old present (oldTarget.trans target)
            have limited : left.attempts.toNat ≤ router.attemptLimit :=
              ((consistent.advance round.duration).refresh.sound left member).limited
            rintro rfl
            simp only [List.length_singleton] at enough
            omega
          obtain ⟨before, later, after, rfl, cleared⟩ :=
            ih (consistent.run round.events)
              (fun other inRest => long other (List.mem_cons_of_mem _ inRest)) next restNonempty
              (by simp only [List.length_cons] at enough; omega)
          refine ⟨round :: before, later, after, rfl, ?_⟩
          rw [runQuietly_cons]
          exact cleared

end Rounds

/-- The round that ends with one sweep by the clock. -/
def clockRound (router : Router) (delay : Environment × Nat) : QuietRound :=
  ⟨[(delay.1, router.settings.sweepInterval + delay.2)], delay.1⟩

theorem run_sweeping (delays : List (Environment × Nat)) :
    router.run state (router.sweeping delays) =
      router.runQuietly state (delays.map router.clockRound) := by
  rw [runQuietly, List.flatMap_map]
  rfl

theorem sweepInterval_le_duration_clockRound (delay : Environment × Nat) :
    router.settings.sweepInterval ≤ (router.clockRound delay).duration :=
  Nat.le_add_right _ delay.2

/-- A router that sweeps by the clock, and not more often than it may send a request again,
comes to rest after twice as many sweeps as it makes attempts. -/
theorem Consistent.pending_run_sweeping (consistent : router.Consistent state)
    (slow : router.settings.retransmitInterval ≤ router.settings.sweepInterval)
    {delays : List (Environment × Nat)} (enough : 2 * router.attemptLimit ≤ delays.length) :
    (router.run state (router.sweeping delays)).pending = [] := by
  have long : ∀ someDelays : List (Environment × Nat),
      ∀ round ∈ someDelays.map router.clockRound,
        router.settings.retransmitInterval ≤ round.duration := by
    intro someDelays round member
    obtain ⟨delay, -, rfl⟩ := List.mem_map.mp member
    exact Nat.le_trans slow (sweepInterval_le_duration_clockRound delay)
  rw [run_sweeping, ← List.take_append_drop router.attemptLimit delays, List.map_append,
    runQuietly_append]
  apply (consistent.runQuietly _).pending_runQuietly_of_own (long _)
  · rw [List.length_map, List.length_drop]
    omega
  · apply consistent.own_runQuietly (long _)
    rw [List.length_map, List.length_take]
    omega

/-- While nothing waits, quiet events change nothing that waits, and nothing is done about
them. -/
theorem journal_quiet {events : List (Environment × RouterEvent)}
    (nothing : state.pending = []) (quiet : ∀ given ∈ events, given.2.isQuiet = true) :
    router.journal state events = [] := by
  induction events generalizing state with
  | nil => rfl
  | cons first rest ih =>
      obtain ⟨environment, event⟩ := first
      have restQuiet : ∀ given ∈ rest, given.2.isQuiet = true :=
        fun given member => quiet given (List.mem_cons_of_mem _ member)
      have silent : (router.step environment state event).1.journal = [] ∧
          (router.step environment state event).1.state.pending = [] := by
        cases event with
        | arrival name octets => cases quiet _ List.mem_cons_self
        | advance duration => exact ⟨rfl, nothing⟩
        | sweep =>
            simp only [step, sweep_eq, Turn.start, refresh, nothing, PendingRequests.poll]
            exact ⟨rfl, rfl⟩
      rw [journal_cons, silent.1, ih silent.2 restQuiet, List.append_nil]

/-- From any state that a router can come to, let it sweep as often as it makes attempts,
and as often again, each time after a long pause.

After the first half, each address has been without a request once, so no request has
outlived it, and only frames of the router's own wait.  After the second half nothing waits
any more, and from then on the router does nothing until a frame arrives. -/
theorem silent_network_drains (router : Router) (events : List (Environment × RouterEvent))
    (early late : List QuietRound) (earlyLength : early.length = router.attemptLimit)
    (lateLength : late.length = router.attemptLimit)
    (long : ∀ round ∈ early ++ late, router.settings.retransmitInterval ≤ round.duration) :
    let start := router.run .initial events
    let middle := router.runQuietly start early
    let rest := router.runQuietly middle late
    (∀ address, ∃ before round after, early = before ++ round :: after ∧
      let swept := (router.runQuietly start before).advance round.duration
      (swept.pending.poll router.schedule swept.now).remaining.find? address = none) ∧
    (∀ request ∈ middle.pending, ∀ frame ∈ request.frames, frame.origin = .originated) ∧
    rest.pending = [] ∧
    ∀ later : List (Environment × RouterEvent), (∀ given ∈ later, given.2.isQuiet = true) →
      router.journal rest later = [] := by
  intro start middle rest
  have longEarly : ∀ round ∈ early, router.settings.retransmitInterval ≤ round.duration :=
    fun round member => long round (List.mem_append_left _ member)
  have longLate : ∀ round ∈ late, router.settings.retransmitInterval ≤ round.duration :=
    fun round member => long round (List.mem_append_right _ member)
  have consistent : router.Consistent start := consistent_run_initial router events
  have consistentMiddle : router.Consistent middle := consistent.runQuietly early
  have attempted : ∀ request ∈ start.pending, 0 < request.attempts.toNat :=
    fun request member => (consistent.sound request member).attempted
  have own : ∀ request ∈ middle.pending, request.HoldsOwn :=
    consistent.own_runQuietly longEarly (Nat.le_of_eq earlyLength.symm)
  have nothing : rest.pending = [] :=
    consistentMiddle.pending_runQuietly_of_own longLate (Nat.le_of_eq lateLength.symm) own
  refine ⟨?_, own, nothing, fun later quiet => journal_quiet nothing quiet⟩
  intro address
  have atLeastOne : 1 ≤ router.attemptLimit := Nat.le_max_left 1 _
  apply consistent.exists_cleared longEarly (fun old present _ => attempted old present)
  · rintro rfl
    simp only [List.length_nil] at earlyLength
    omega
  · omega

/-- A datagram waits for a gateway that does not answer.  After two sweeps it is given up,
and an error about it waits for the source, which does not answer either.  After two more
nothing waits. -/
theorem silent_network_drains_gateway :
    let lan : Interface := ⟨"lan", ⟨2, 0, 0, 0, 0, 1⟩, ⟨10, 0, 0, 1⟩⟩
    let wan : Interface := ⟨"wan", ⟨2, 0, 0, 0, 0, 2⟩, ⟨10, 0, 1, 1⟩⟩
    let near : Route := ⟨⟨10, 0, 0, 0⟩, Ipv4Address.unspecified, ⟨255, 255, 255, 0⟩, "lan"⟩
    let far : Route := ⟨⟨10, 2, 0, 0⟩, ⟨10, 0, 1, 9⟩, ⟨255, 255, 0, 0⟩, "wan"⟩
    let routes : RoutingTable := ⟨[near, far], by decide⟩
    let router : Router := ⟨⟨[lan, wan], by decide⟩, routes, { maximumAttempts := 2 }⟩
    let environment : Environment := ⟨fun _ _ => none, fun _ => 0⟩
    let datagram := Ipv4Header.attach ⟨⟨10, 0, 0, 7⟩, ⟨10, 2, 3, 4⟩, 17, 64, 0, 0⟩ []
    let frame := EthernetFrame.assemble lan.mac ⟨2, 0, 0, 0, 0, 7⟩ EthernetFrame.ipv4Type datagram
    let start := router.run .initial [(environment, .arrival "lan" frame)]
    let round : QuietRound := ⟨[(environment, 600000000), (environment, 400000000)], environment⟩
    let middle := router.runQuietly start [round, round]
    let rest := router.runQuietly middle [round, round]
    start.pending.map PendingRequest.target = [⟨10, 0, 1, 9⟩] ∧
    middle.pending.map PendingRequest.target = [⟨10, 0, 0, 7⟩] ∧
    rest.pending = [] ∧ router.journal rest [(environment, .sweep)] = [] := by
  intro lan wan near far routes router environment datagram frame start round middle rest
  have long : ∀ other ∈ [round, round] ++ [round, round],
      router.settings.retransmitInterval ≤ other.duration := by decide
  obtain ⟨-, -, nothing, silent⟩ := silent_network_drains router
    [(environment, .arrival "lan" frame)] [round, round] [round, round] rfl rfl long
  exact ⟨by decide +kernel, by decide +kernel, nothing, silent _ (by decide)⟩

end Router

end Ipv4Router
