import Ipv4Router.Proofs.CheckedRequests

/-!
# The walk of a poll

A machine polls the pending requests by one walk through their array.  It has an index, which it
advances past a request that stays.  A request that fails is taken out of the array, and the
requests behind it move up by one place; the index then already stands at the next of them, and
does not advance.

This file describes the walk turn by turn.  Before each turn, the array consists of what the
visited requests have left and of all the others as they were, and the index stands where the two
meet.  Hence a walk visits every request once, in order.  What it makes of them in the end can be
told in one pass over the requests for each of its lists: the failed ones, those to send again,
and those that remain.
-/

namespace Ipv4Router

open Checked

/-- A poll reports the due requests as failed that have been sent as often as allowed, and sends
the other due ones again.  All but the failed ones remain.  Those that are sent again count one
attempt more and were last sent now. -/
def PollOutcome.onePass (schedule : RetransmitSchedule) (now : Nat) (pending : PendingRequests) :
    PollOutcome where
  retransmit := (pending.filter fun request =>
    schedule.interval ≤ now - request.lastSent ∧
      request.attempts < schedule.maximumAttempts).map fun request =>
        ⟨request.target, request.interface⟩
  failed := pending.filter fun request =>
    schedule.interval ≤ now - request.lastSent ∧ schedule.maximumAttempts ≤ request.attempts
  remaining := (pending.filter fun request =>
    ¬ (schedule.interval ≤ now - request.lastSent ∧
      schedule.maximumAttempts ≤ request.attempts)).map fun request =>
        if schedule.interval ≤ now - request.lastSent then
          { request with attempts := request.attempts + 1, lastSent := now }
        else request

section OnePass

variable (schedule : RetransmitSchedule) (now : Nat)

theorem PendingRequest.fails_eq_decide (request : PendingRequest) :
    request.fails schedule now = decide (schedule.interval ≤ now - request.lastSent ∧
      schedule.maximumAttempts ≤ request.attempts) :=
  (Bool.decide_and _ _).symm

theorem PendingRequest.isResent_eq_decide (request : PendingRequest) :
    (request.isDue schedule now && !request.isExhausted schedule) =
      decide (schedule.interval ≤ now - request.lastSent ∧
        request.attempts < schedule.maximumAttempts) := by
  rw [isDue, isExhausted, ← decide_not, ← Bool.decide_and]
  simp only [UInt32.not_le]

theorem PendingRequest.afterPoll_eq_ite (request : PendingRequest) :
    request.afterPoll schedule now =
      if schedule.interval ≤ now - request.lastSent then
        { request with attempts := request.attempts + 1, lastSent := now }
      else request := by
  simp [afterPoll, isDue, resent]

theorem PendingRequests.poll_eq_onePass (pending : PendingRequests) :
    pending.poll schedule now = .onePass schedule now pending := by
  have fields : pending.poll schedule now =
      ⟨(pending.poll schedule now).retransmit, (pending.poll schedule now).failed,
        (pending.poll schedule now).remaining⟩ := rfl
  rw [fields, retransmit_poll, failed_poll, remaining_poll]
  simp only [funext (PendingRequest.fails_eq_decide schedule now),
    PendingRequest.isResent_eq_decide, funext (PendingRequest.afterPoll_eq_ite schedule now),
    ← decide_not]
  rfl

/-- One pass over two lists is one pass over each. -/
theorem PollOutcome.onePass_append (front back : PendingRequests) :
    onePass schedule now (front ++ back) =
      ⟨(onePass schedule now front).retransmit ++ (onePass schedule now back).retransmit,
        (onePass schedule now front).failed ++ (onePass schedule now back).failed,
        (onePass schedule now front).remaining ++ (onePass schedule now back).remaining⟩ := by
  simp only [onePass, List.filter_append, List.map_append]

variable {schedule} {now} {request : PendingRequest}

theorem PollOutcome.onePass_waiting (early : request.isDue schedule now = false) :
    onePass schedule now [request] = ⟨[], [], [request]⟩ := by
  rw [← PendingRequests.poll_eq_onePass]
  simp [PendingRequests.poll, early]

theorem PollOutcome.onePass_failing (due : request.isDue schedule now)
    (exhausted : request.isExhausted schedule) :
    onePass schedule now [request] = ⟨[], [request], []⟩ := by
  rw [← PendingRequests.poll_eq_onePass]
  simp [PendingRequests.poll, due, exhausted]

theorem PollOutcome.onePass_resent (due : request.isDue schedule now)
    (spare : request.isExhausted schedule = false) :
    onePass schedule now [request] = ⟨[request.solicitation], [], [request.resent now]⟩ := by
  rw [← PendingRequests.poll_eq_onePass]
  simp [PendingRequests.poll, due, spare]

end OnePass

/-- A walk under way: the index, and the outcome so far, which holds the array. -/
structure PollWalk where
  index : Nat
  outcome : PollOutcome
  deriving DecidableEq

namespace PollWalk

def start (pending : PendingRequests) : PollWalk := ⟨0, [], [], pending⟩

/-- The index has passed the last request of the array. -/
def IsOver (walk : PollWalk) : Prop := walk.outcome.remaining.length ≤ walk.index

/-- Visit the request at the index. -/
def turn (schedule : RetransmitSchedule) (now : Nat) (walk : PollWalk) : Checked PollWalk := do
  let ⟨index, retransmit, failed, remaining⟩ := walk
  let request ← PendingRequests.checkedAt remaining index
  if !request.isDue schedule now then
    return ⟨index + 1, retransmit, failed, remaining⟩
  else if request.isExhausted schedule then
    return ⟨index, retransmit, failed ++ [request], remaining.eraseIdx index⟩
  else
    let attempts ← checkedAdd request.attempts 1
    let resent := { request with attempts, lastSent := now }
    return ⟨index + 1, retransmit ++ [request.solicitation], failed, remaining.set index resent⟩

/-- So many turns, one after the other. -/
def turns (schedule : RetransmitSchedule) (now : Nat) : Nat → PollWalk → Checked PollWalk
  | 0, walk => .ok walk
  | more + 1, walk => do turns schedule now more (← walk.turn schedule now)

variable (schedule : RetransmitSchedule) (now : Nat)

/-- The walk after it has visited some requests, when the others are still before it. -/
def visiting (visited rest : PendingRequests) : PollWalk :=
  let outcome := PollOutcome.onePass schedule now visited
  ⟨outcome.remaining.length, { outcome with remaining := outcome.remaining ++ rest }⟩

theorem visiting_nil (pending : PendingRequests) :
    visiting schedule now [] pending = start pending :=
  rfl

theorem isOver_visiting_iff (visited rest : PendingRequests) :
    (visiting schedule now visited rest).IsOver ↔ rest = [] := by
  simp only [IsOver, visiting, List.length_append]
  rw [← List.length_eq_zero_iff]
  omega

/-- A turn takes one request from those that are still to be visited, and leaves of it what a
poll of that request leaves. -/
theorem turn_visiting (visited : PendingRequests) (request : PendingRequest)
    (rest : PendingRequests) :
    (visiting schedule now visited (request :: rest)).turn schedule now =
      .ok (visiting schedule now (visited ++ [request]) rest) := by
  -- The requests at the index and behind it do not depend on what was collected so far.
  generalize collected : PollOutcome.onePass schedule now visited = outcome
  have atIndex := PendingRequests.checkedAt_length outcome.remaining request rest
  simp only [visiting, PollOutcome.onePass_append, collected, turn, atIndex, ok_bind]
  cases due : request.isDue schedule now with
  | false =>
      simp only [PollOutcome.onePass_waiting due]
      simp
  | true =>
      cases exhausted : request.isExhausted schedule with
      | true =>
          have removed : (outcome.remaining ++ request :: rest).eraseIdx outcome.remaining.length =
              outcome.remaining ++ rest := by
            rw [List.eraseIdx_append_of_length_le (Nat.le_refl _), Nat.sub_self,
              List.eraseIdx_cons_zero]
          -- The rest moves up to the index, which therefore stays.
          simp only [PollOutcome.onePass_failing due exhausted, removed]
          simp
      | false =>
          simp only [PollOutcome.onePass_resent due exhausted,
            PendingRequests.checkedAdd_attempts exhausted]
          simp [PendingRequest.resent]

/-- As many turns as there are requests in the first part of the rest visit all of that part. -/
theorem turns_visiting (visited part rest : PendingRequests) :
    turns schedule now part.length (visiting schedule now visited (part ++ rest)) =
      .ok (visiting schedule now (visited ++ part) rest) := by
  induction part generalizing visited with
  | nil => rw [List.append_nil]; rfl
  | cons request part ih =>
      rw [List.length_cons, turns, List.cons_append, turn_visiting, ok_bind, ih,
        List.append_assoc, List.singleton_append]

theorem checkedPollFrom_of_isOver {walk : PollWalk} (finished : walk.IsOver) :
    PendingRequests.checkedPollFrom schedule now walk.outcome walk.index = .ok walk.outcome := by
  rw [PendingRequests.checkedPollFrom, dif_neg (Nat.not_lt_of_le finished)]
  rfl

theorem checkedPollFrom_of_not_isOver {walk : PollWalk} (underway : ¬ walk.IsOver) :
    PendingRequests.checkedPollFrom schedule now walk.outcome walk.index =
      walk.turn schedule now >>= fun moved =>
        PendingRequests.checkedPollFrom schedule now moved.outcome moved.index := by
  rw [PendingRequests.checkedPollFrom, dif_pos (Nat.lt_of_not_le underway), turn, bind_assoc]
  congr 1
  funext request
  split
  · rfl
  · split
    · rfl
    · rw [bind_assoc]
      rfl

theorem checkedPollFrom_visiting (visited rest : PendingRequests) :
    PendingRequests.checkedPollFrom schedule now (visiting schedule now visited rest).outcome
        (visiting schedule now visited rest).index =
      .ok (.onePass schedule now (visited ++ rest)) := by
  induction rest generalizing visited with
  | nil =>
      have finished := (isOver_visiting_iff schedule now visited []).mpr rfl
      rw [checkedPollFrom_of_isOver schedule now finished]
      simp only [visiting, List.append_nil]
  | cons request rest ih =>
      have underway : ¬ (visiting schedule now visited (request :: rest)).IsOver := by
        rw [isOver_visiting_iff]
        exact List.cons_ne_nil request rest
      rw [checkedPollFrom_of_not_isOver schedule now underway, turn_visiting, ok_bind, ih,
        List.append_assoc, List.singleton_append]

end PollWalk

namespace PendingRequests

variable (schedule : RetransmitSchedule) (now : Nat) (pending : PendingRequests)

theorem checkedPoll_eq_onePass :
    pending.checkedPoll schedule now = .ok (.onePass schedule now pending) :=
  PollWalk.checkedPollFrom_visiting schedule now [] pending

theorem checkedPoll_eq : pending.checkedPoll schedule now = .ok (pending.poll schedule now) := by
  rw [checkedPoll_eq_onePass, poll_eq_onePass]

/-- A poll ends after one turn for each request, and no turn stops it.  It reports the failed
requests and those to send again, and leaves the others and the resent ones, in the order of the
requests.  There is room to count the attempt of a request that is sent again. -/
theorem poll_partitions_stably :
    pending.poll schedule now = .onePass schedule now pending ∧
    pending.checkedPoll schedule now = .ok (.onePass schedule now pending) ∧
    (∀ count ≤ pending.length,
      let walk := PollWalk.visiting schedule now (pending.take count) (pending.drop count)
      PollWalk.turns schedule now count (.start pending) = .ok walk ∧
        (walk.IsOver ↔ count = pending.length)) ∧
    ∀ request ∈ pending, request.attempts < schedule.maximumAttempts →
      (request.attempts + 1).toNat = request.attempts.toNat + 1 := by
  refine ⟨poll_eq_onePass schedule now pending, checkedPoll_eq_onePass schedule now pending, ?_, ?_⟩
  · intro count inside
    have visited := PollWalk.turns_visiting schedule now [] (pending.take count)
      (pending.drop count)
    rw [List.take_append_drop, List.length_take_of_le inside, List.nil_append,
      PollWalk.visiting_nil] at visited
    refine ⟨visited, ?_⟩
    rw [PollWalk.isOver_visiting_iff, List.drop_eq_nil_iff]
    omega
  · intro request _ below
    have spare : request.isExhausted schedule = false :=
      decide_eq_false (UInt32.not_le.mpr below)
    exact PendingRequest.toNat_attempts_resent spare now

/-- The first two requests fail one right after the other, the third waits, and the last one is
sent again. -/
example :
    let failing : PendingRequest := ⟨⟨10, 0, 0, 2⟩, "lan", [], 3, 0⟩
    let other : PendingRequest := ⟨⟨10, 0, 0, 3⟩, "lan", [], 4, 1⟩
    let waiting : PendingRequest := ⟨⟨10, 0, 0, 4⟩, "lan", [], 3, 2⟩
    let resent : PendingRequest := ⟨⟨192, 0, 2, 2⟩, "wan", [], 2, 1⟩
    checkedPoll ⟨2, 3⟩ 3 [failing, other, waiting, resent] =
      .ok ⟨[⟨⟨192, 0, 2, 2⟩, "wan"⟩], [failing, other],
        [waiting, ⟨⟨192, 0, 2, 2⟩, "wan", [], 3, 3⟩]⟩ := by
  simp only [checkedPoll_eq]
  decide +kernel

end PendingRequests

end Ipv4Router
