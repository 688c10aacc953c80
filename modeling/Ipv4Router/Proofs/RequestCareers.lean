import Ipv4Router.Proofs.PendingTimelines
import Mathlib.Data.List.Chain
import Mathlib.Data.List.Induction
import Mathlib.Data.List.Range

/-!
# The career of a request

A pending request is followed from the frame that it was made for to the poll that gives it
up.  What happens to it on this way depends on the times of the polls and on nothing else: it
is sent again whenever it is due, and the times at which it is due can be read off the times
of the polls, each an interval or more after the one before.  The last of them that the limit
on attempts allows is not a transmission but the failure.

So there is a closed form for the course of a request, the due times.  The invariant says that
the list of pending requests, in which all requests are polled at once and which others leave
meanwhile, keeps each request to it.
-/

namespace Ipv4Router

namespace RetransmitSchedule

/-- How often a request is sent before it is given up. -/
def limit (schedule : RetransmitSchedule) : Nat :=
  max 1 schedule.maximumAttempts.toNat

/-- Of the times at which a request is polled those at which it is due, if it was sent before
and is sent again each time. -/
def dueTimes (schedule : RetransmitSchedule) (lastSent : Nat) : List Nat → List Nat
  | [] => []
  | poll :: later =>
      if schedule.interval ≤ poll - lastSent then poll :: dueTimes schedule poll later
      else dueTimes schedule lastSent later

/-- Two times are far enough apart for a request to be sent at both. -/
def Spaced (schedule : RetransmitSchedule) (earlier later : Nat) : Prop :=
  earlier + schedule.interval ≤ later

variable {schedule : RetransmitSchedule} {lastSent : Nat}

theorem dueTimes_append (schedule : RetransmitSchedule) (lastSent : Nat) (polls : List Nat)
    (poll : Nat) :
    schedule.dueTimes lastSent (polls ++ [poll]) =
      schedule.dueTimes lastSent polls ++
        if schedule.interval ≤ poll - (schedule.dueTimes lastSent polls).getLastD lastSent
        then [poll] else [] := by
  induction polls generalizing lastSent with
  | nil => rfl
  | cons first later ih =>
      rw [List.cons_append, dueTimes, dueTimes]
      split
      · rw [ih, List.getLastD_cons, List.cons_append]
      · exact ih lastSent

theorem isChain_dueTimes {polls : List Nat} (ordered : (lastSent :: polls).IsChain (· ≤ ·)) :
    (lastSent :: schedule.dueTimes lastSent polls).IsChain schedule.Spaced := by
  induction polls generalizing lastSent with
  | nil => exact List.IsChain.singleton lastSent
  | cons first later ih =>
      obtain ⟨forward, laterOrdered⟩ := List.isChain_cons_cons.mp ordered
      rw [dueTimes]
      split
      next due =>
        refine List.isChain_cons_cons.mpr ⟨?_, ih laterOrdered⟩
        rw [Spaced]
        omega
      next =>
        apply ih
        refine List.isChain_cons.mpr ⟨?_, (List.isChain_cons.mp laterOrdered).2⟩
        intro second isSecond
        exact forward.trans ((List.isChain_cons.mp laterOrdered).1 second isSecond)

/-- Polls that are spaced find the request due each time. -/
theorem dueTimes_of_isChain {polls : List Nat}
    (spaced : (lastSent :: polls).IsChain schedule.Spaced) :
    schedule.dueTimes lastSent polls = polls := by
  induction polls generalizing lastSent with
  | nil => rfl
  | cons first later ih =>
      obtain ⟨apart, laterSpaced⟩ := List.isChain_cons_cons.mp spaced
      rw [Spaced] at apart
      rw [dueTimes, if_pos (by omega), ih laterSpaced]

theorem add_mul_le_getLastD {times : List Nat}
    (spaced : (lastSent :: times).IsChain schedule.Spaced) :
    lastSent + times.length * schedule.interval ≤ times.getLastD lastSent := by
  induction times generalizing lastSent with
  | nil => simp
  | cons first later ih =>
      obtain ⟨apart, laterSpaced⟩ := List.isChain_cons_cons.mp spaced
      have bound := ih laterSpaced
      rw [Spaced] at apart
      rw [List.length_cons, Nat.succ_mul, List.getLastD_cons]
      omega

theorem isChain_multiples (schedule : RetransmitSchedule) (start count : Nat) :
    ((List.range (count + 1)).map (fun n => start + n * schedule.interval)).IsChain
      schedule.Spaced := by
  rw [List.isChain_map, List.isChain_range_succ]
  intro n _
  rw [Spaced, Nat.succ_mul]
  omega

end RetransmitSchedule

/-- A request from the moment at which it may be made, with all that is done since. -/
structure RequestCareer where
  opening : PendingMoment
  target : Ipv4Address
  frame : DatagramFrame
  interface : String
  since : List PendingUse

namespace RequestCareer

open PendingUse

/-- The use that makes the request, and all uses since. -/
def uses (career : RequestCareer) : List PendingUse :=
  .enqueue career.target career.frame career.interface :: career.since

/-- A career with one use more. -/
def further (career : RequestCareer) (next : PendingUse) : RequestCareer :=
  { career with since := career.since ++ [next] }

@[elab_as_elim]
theorem induct {motive : RequestCareer → Prop}
    (begin : ∀ opening target frame interface,
      motive ⟨opening, target, frame, interface, []⟩)
    (further : ∀ career next, motive career → motive (career.further next))
    (career : RequestCareer) : motive career := by
  obtain ⟨opening, target, frame, interface, since⟩ := career
  induction since using List.reverseRecOn with
  | nil => exact begin opening target frame interface
  | append_singleton earlier last ih => exact further _ last ih

/-- The frames that were made to wait for the address, in order. -/
def frames (career : RequestCareer) : List DatagramFrame :=
  career.uses.filterMap (frameFor? career.target)

section Course

variable (schedule : RetransmitSchedule) (career : RequestCareer)

/-- The moment that the career has come to. -/
def moment : PendingMoment :=
  career.opening.after schedule career.uses

/-- The times at which the request is sent, with the interfaces. -/
def sent : List (Nat × String) :=
  (career.opening.reports schedule career.uses).flatMap
    (PendingReport.solicitationsOf career.target)

def times : List Nat :=
  (career.sent schedule).map Prod.fst

/-- The times at which the request is reported as failed, with what is reported. -/
def failures : List (Nat × PendingRequest) :=
  (career.opening.reports schedule career.uses).flatMap
    (PendingReport.failuresOf career.target)

/-- The times of the polls that find the request due. -/
def dueTimes : List Nat :=
  schedule.dueTimes career.opening.now (pollTimes career.opening.now career.uses)

/-- The request was made, and neither resolved nor reported as failed. -/
structure Open : Prop where
  made : career.opening.pending.find? career.target = none
  unresolved : .resolve career.target ∉ career.since
  unfailed : career.failures schedule = []

/-- The request as it is after what was done since it was made. -/
structure Describes (request : PendingRequest) : Prop where
  target : request.target = career.target
  interface : request.interface = career.interface
  frames : request.frames = career.frames
  attempts : request.attempts.toNat = (career.times schedule).length
  lastSent : (career.times schedule).getLast? = some request.lastSent

/-- A later use has made another request for the address. -/
def Superseded : Prop :=
  ∃ earlier frame interface later,
    career.since = earlier ++ .enqueue career.target frame interface :: later ∧
    ({ career with since := earlier }.moment schedule).pending.find? career.target = none

theorem sound_moment (sound : career.opening.Sound) :
    (career.moment schedule).Sound :=
  sound.after schedule career.uses

theorem moment_further (next : PendingUse) :
    (career.further next).moment schedule = (career.moment schedule).use schedule next :=
  career.opening.after_append schedule career.uses next

theorem sent_further (next : PendingUse) :
    (career.further next).sent schedule =
      career.sent schedule ++
        ((career.moment schedule).report schedule next).solicitationsOf career.target := by
  have extended := career.opening.reports_append schedule career.uses next
  rw [sent, show (career.further next).uses = career.uses ++ [next] from rfl]
  simp only [further, extended, List.flatMap_append, List.flatMap_singleton]
  rfl

theorem failures_further (next : PendingUse) :
    (career.further next).failures schedule =
      career.failures schedule ++
        ((career.moment schedule).report schedule next).failuresOf career.target := by
  have extended := career.opening.reports_append schedule career.uses next
  rw [failures, show (career.further next).uses = career.uses ++ [next] from rfl]
  simp only [further, extended, List.flatMap_append, List.flatMap_singleton]
  rfl

theorem frames_further (next : PendingUse) :
    (career.further next).frames = career.frames ++ (next.frameFor? career.target).toList := by
  rw [frames, show (career.further next).uses = career.uses ++ [next] from rfl,
    List.filterMap_append]
  cases found : next.frameFor? career.target <;> simp [further, frames, found]

theorem dueTimes_further_of_ne_poll {next : PendingUse} (notPoll : next ≠ .poll) :
    (career.further next).dueTimes schedule = career.dueTimes schedule := by
  have extended := career.opening.pollTimes_append schedule career.uses next
  have nothing : pollTimes (career.opening.after schedule career.uses).now [next] = [] := by
    cases next with
    | enqueue other frame interface => rfl
    | resolve other => rfl
    | poll => exact absurd rfl notPoll
    | wait duration => rfl
  rw [nothing, List.append_nil] at extended
  exact congrArg (schedule.dueTimes career.opening.now) extended

theorem dueTimes_further_poll :
    (career.further .poll).dueTimes schedule =
      career.dueTimes schedule ++
        if schedule.interval ≤ (career.moment schedule).now -
          (career.dueTimes schedule).getLastD career.opening.now
        then [(career.moment schedule).now] else [] := by
  have extended := career.opening.pollTimes_append schedule career.uses .poll
  refine (congrArg (schedule.dueTimes career.opening.now) extended).trans ?_
  exact schedule.dueTimes_append _ _ _

end Course

variable {schedule : RetransmitSchedule} {career : RequestCareer} {request : PendingRequest}

/-- The request is pending, and its course so far is given by the times at which it was due. -/
structure Stands (schedule : RetransmitSchedule) (career : RequestCareer)
    (request : PendingRequest) : Prop where
  found : (career.moment schedule).pending.find? career.target = some request
  interface : request.interface = career.interface
  frames : request.frames = career.frames
  attempts : request.attempts.toNat = (career.dueTimes schedule).length + 1
  lastSent : request.lastSent = (career.dueTimes schedule).getLastD career.opening.now
  sent : career.sent schedule =
    (career.opening.now :: career.dueTimes schedule).map (fun time => (time, career.interface))
  unfailed : career.failures schedule = []

theorem exists_stands_begin {opening : PendingMoment} {target : Ipv4Address}
    {frame : DatagramFrame} {interface : String}
    (made : opening.pending.find? target = none) :
    ∃ request, Stands schedule ⟨opening, target, frame, interface, []⟩ request := by
  refine ⟨⟨target, interface, [frame], 1, opening.now⟩, ?_, rfl, ?_, rfl, rfl, ?_, rfl⟩
  · refine PendingRequests.find?_enqueue_self.trans ?_
    rw [made]
    rfl
  · simp [RequestCareer.frames, uses, frameFor?]
  · refine (List.append_nil _).trans ?_
    rw [opening.solicitationsOf_enqueue schedule target target frame interface,
      if_pos ⟨rfl, made⟩]
    rfl

/-- A use that is not a poll and leaves the request pending at most lets a frame join it. -/
theorem Stands.further_of_ne_poll (stands : career.Stands schedule request) {next : PendingUse}
    (notPoll : next ≠ .poll) (unresolved : next ≠ .resolve career.target)
    (distinct : (career.moment schedule).pending.Distinct) :
    ∃ later, (career.further next).Stands schedule later := by
  have silent : ((career.moment schedule).report schedule next).solicitationsOf
      career.target = [] := by
    cases next with
    | enqueue other frame interface =>
        rw [PendingMoment.solicitationsOf_enqueue, if_neg]
        rintro ⟨-, unknown⟩
        rw [stands.found] at unknown
        cases unknown
    | resolve other => rfl
    | poll => exact absurd rfl notPoll
    | wait duration => rfl
  have sameDueTimes := career.dueTimes_further_of_ne_poll schedule notPoll
  have sent : (career.further next).sent schedule = (career.opening.now ::
      (career.further next).dueTimes schedule).map (fun time => (time, career.interface)) := by
    rw [sent_further, silent, List.append_nil, sameDueTimes]
    exact stands.sent
  have unfailed : (career.further next).failures schedule = [] := by
    rw [failures_further, PendingMoment.failuresOf_of_ne_poll notPoll, stands.unfailed,
      List.append_nil]
  -- Only the frames can have changed, so it is enough to find the request with these frames.
  suffices found : ((career.moment schedule).use schedule next).pending.find? career.target =
      some { request with frames := request.frames ++ (next.frameFor? career.target).toList } by
    refine ⟨{ request with frames := request.frames ++ (next.frameFor? career.target).toList },
      ?_, stands.interface, ?_, ?_, ?_, sent, unfailed⟩
    · rw [moment_further]
      exact found
    · rw [frames_further, ← stands.frames]
    · rw [sameDueTimes]
      exact stands.attempts
    · rw [sameDueTimes]
      exact stands.lastSent
  have unchanged : { request with frames := request.frames ++ [] } = request := by
    rw [List.append_nil]
  cases next with
  | enqueue other frame interface =>
      by_cases same : other = career.target
      · subst same
        refine PendingRequests.find?_enqueue_self.trans ?_
        rw [stands.found, frameFor?, if_pos rfl]
        rfl
      · refine (PendingRequests.find?_enqueue_of_ne same).trans ?_
        rw [stands.found, frameFor?, if_neg same, Option.toList_none, unchanged]
  | resolve other =>
      have different : career.target ≠ other := fun same => unresolved (same ▸ rfl)
      refine (PendingRequests.find?_resolve_of_ne distinct different).trans ?_
      rw [stands.found, frameFor?, Option.toList_none, unchanged]
  | poll => exact absurd rfl notPoll
  | wait duration =>
      refine stands.found.trans ?_
      rw [frameFor?, Option.toList_none, unchanged]

/-- The request is exhausted when it was sent as often as the limit allows. -/
theorem Stands.isExhausted_eq (stands : career.Stands schedule request) :
    request.isExhausted schedule =
      decide (schedule.limit ≤ (career.dueTimes schedule).length + 1) := by
  rw [PendingRequest.isExhausted, Bool.eq_iff_iff, decide_eq_true_eq, decide_eq_true_eq,
    UInt32.le_iff_toNat_le, stands.attempts, RetransmitSchedule.limit]
  omega

theorem Stands.dueTimes_further_poll (stands : career.Stands schedule request) :
    (career.further .poll).dueTimes schedule =
      career.dueTimes schedule ++
        if request.isDue schedule (career.moment schedule).now
        then [(career.moment schedule).now] else [] := by
  rw [RequestCareer.dueTimes_further_poll, ← stands.lastSent, PendingRequest.isDue]
  simp only [decide_eq_true_eq]

/-- A poll that may still send the request sends it exactly if it is due. -/
theorem Stands.further_poll (stands : career.Stands schedule request)
    (distinct : (career.moment schedule).pending.Distinct)
    (within : ((career.further .poll).dueTimes schedule).length < schedule.limit) :
    (career.further .poll).Stands schedule
      (request.afterPoll schedule (career.moment schedule).now) := by
  have dueTimes := stands.dueTimes_further_poll
  have kept : request.fails schedule (career.moment schedule).now = false := by
    rw [PendingRequest.fails, stands.isExhausted_eq]
    rw [dueTimes] at within
    cases due : request.isDue schedule (career.moment schedule).now with
    | false => rfl
    | true =>
        rw [due, if_pos rfl, List.length_append, List.length_singleton] at within
        simpa using within
  have unfailed : (career.further .poll).failures schedule = [] := by
    rw [failures_further, stands.unfailed, PendingMoment.failuresOf_poll distinct, stands.found,
      Option.filter_some, kept]
    rfl
  have found : ((career.further .poll).moment schedule).pending.find? career.target =
      some (request.afterPoll schedule (career.moment schedule).now) := by
    rw [moment_further]
    exact PendingRequests.find?_remaining_poll_of_kept distinct stands.found kept
  have frames : request.frames = (career.further .poll).frames := by
    rw [frames_further, stands.frames]
    exact (List.append_nil _).symm
  have sent := career.sent_further schedule .poll
  rw [PendingMoment.solicitationsOf_poll distinct, stands.found, Option.filter_some] at sent
  cases due : request.isDue schedule (career.moment schedule).now with
  | false =>
      rw [due, if_neg Bool.false_ne_true, List.append_nil] at dueTimes
      rw [due, Bool.false_and, if_neg Bool.false_ne_true, Option.toList_none, List.map_nil,
        List.append_nil] at sent
      rw [PendingRequest.afterPoll, due, if_neg Bool.false_ne_true] at found ⊢
      refine ⟨found, stands.interface, frames, ?_, ?_, ?_, unfailed⟩
      · rw [dueTimes]
        exact stands.attempts
      · rw [dueTimes]
        exact stands.lastSent
      · rw [sent, dueTimes]
        exact stands.sent
  | true =>
      have notExhausted : request.isExhausted schedule = false := by
        rw [PendingRequest.fails, due, Bool.true_and] at kept
        exact kept
      rw [due, if_pos rfl] at dueTimes
      rw [due, notExhausted, Bool.not_false, Bool.and_self, if_pos rfl, Option.toList_some,
        List.map_singleton, stands.interface, stands.sent] at sent
      rw [PendingRequest.afterPoll, due, if_pos rfl] at found ⊢
      refine ⟨found, stands.interface, frames, ?_, ?_, ?_, unfailed⟩
      · rw [PendingRequest.toNat_attempts_resent notExhausted, stands.attempts, dueTimes,
          List.length_append, List.length_singleton]
      · rw [dueTimes, List.getLastD_concat]
        rfl
      · rw [sent, dueTimes, ← List.cons_append, List.map_append]
        rfl

theorem Open.of_further {next : PendingUse} (isOpen : (career.further next).Open schedule) :
    career.Open schedule ∧
      ((career.moment schedule).report schedule next).failuresOf career.target = [] := by
  have unfailed := isOpen.unfailed
  rw [failures_further, List.append_eq_nil_iff] at unfailed
  refine ⟨⟨isOpen.made, ?_, unfailed.1⟩, unfailed.2⟩
  exact fun resolved => isOpen.unresolved (List.mem_append_left _ resolved)

/-- A request that nobody resolves stands until it was due as often as it may be sent. -/
theorem exists_stands (sound : career.opening.Sound)
    (made : career.opening.pending.find? career.target = none)
    (unresolved : .resolve career.target ∉ career.since)
    (within : (career.dueTimes schedule).length < schedule.limit) :
    ∃ request, career.Stands schedule request := by
  induction career using induct with
  | begin opening target frame interface => exact exists_stands_begin made
  | further career next ih =>
      have distinct := (career.sound_moment schedule sound).distinct
      have earlierUnresolved : .resolve career.target ∉ career.since :=
        fun resolved => unresolved (List.mem_append_left _ resolved)
      have nextUnresolved : next ≠ .resolve career.target := by
        rintro rfl
        exact unresolved (List.mem_append_right _ List.mem_cons_self)
      by_cases polled : next = .poll
      · subst polled
        have earlierWithin : (career.dueTimes schedule).length < schedule.limit := by
          rw [career.dueTimes_further_poll schedule, List.length_append] at within
          omega
        obtain ⟨request, stands⟩ := ih sound made earlierUnresolved earlierWithin
        exact ⟨_, stands.further_poll distinct within⟩
      · rw [career.dueTimes_further_of_ne_poll schedule polled] at within
        obtain ⟨request, stands⟩ := ih sound made earlierUnresolved within
        exact stands.further_of_ne_poll polled nextUnresolved distinct

/-- The poll that finds a request due once too often reports it as failed. -/
theorem Open.length_dueTimes_lt (sound : career.opening.Sound)
    (isOpen : career.Open schedule) : (career.dueTimes schedule).length < schedule.limit := by
  induction career using induct with
  | begin opening target frame interface =>
      exact Nat.lt_of_lt_of_le Nat.zero_lt_one (Nat.le_max_left 1 _)
  | further career next ih =>
      obtain ⟨earlierOpen, notReported⟩ := isOpen.of_further
      have earlierWithin := ih sound earlierOpen
      by_cases polled : next = .poll
      · subst polled
        obtain ⟨request, stands⟩ : ∃ request, career.Stands schedule request :=
          exists_stands sound earlierOpen.made earlierOpen.unresolved earlierWithin
        have distinct := (career.sound_moment schedule sound).distinct
        have kept : request.fails schedule (career.moment schedule).now = false := by
          rw [PendingMoment.failuresOf_poll distinct, stands.found] at notReported
          by_contra fails
          rw [Option.filter_some, eq_true_of_ne_false fails] at notReported
          cases notReported
        rw [PendingRequest.fails, stands.isExhausted_eq] at kept
        rw [stands.dueTimes_further_poll, List.length_append]
        cases due : request.isDue schedule (career.moment schedule).now with
        | false => simpa using earlierWithin
        | true =>
            rw [due, Bool.true_and, decide_eq_false_iff_not] at kept
            rw [if_pos rfl, List.length_singleton]
            omega
      · rw [career.dueTimes_further_of_ne_poll schedule polled]
        exact earlierWithin

theorem Open.exists_stands (sound : career.opening.Sound) (isOpen : career.Open schedule) :
    ∃ request, career.Stands schedule request :=
  RequestCareer.exists_stands sound isOpen.made isOpen.unresolved
    (isOpen.length_dueTimes_lt sound)

theorem Stands.times_eq (stands : career.Stands schedule request) :
    career.times schedule = career.opening.now :: career.dueTimes schedule := by
  rw [times, stands.sent, List.map_map]
  exact List.map_id _

theorem Stands.describes (stands : career.Stands schedule request) :
    career.Describes schedule request where
  target := PendingRequests.target_of_find? stands.found
  interface := stands.interface
  frames := stands.frames
  attempts := by
    rw [stands.times_eq, stands.attempts, List.length_cons]
  lastSent := by
    rw [stands.times_eq, List.getLast?_cons, stands.lastSent, List.getLastD_eq_getLast?]

/-- The description leaves nothing of the request open. -/
theorem Describes.eq {other : PendingRequest} (describes : career.Describes schedule request)
    (otherDescribes : career.Describes schedule other) : request = other := by
  have sameAttempts : request.attempts = other.attempts :=
    UInt32.toNat_inj.mp (describes.attempts.trans otherDescribes.attempts.symm)
  have sameTime : request.lastSent = other.lastSent :=
    Option.some.inj (describes.lastSent.symm.trans otherDescribes.lastSent)
  obtain ⟨target, interface, frames, attempts, lastSent⟩ := request
  rw [PendingRequest.mk.injEq]
  exact ⟨describes.target.trans otherDescribes.target.symm,
    describes.interface.trans otherDescribes.interface.symm,
    describes.frames.trans otherDescribes.frames.symm, sameAttempts, sameTime⟩

end RequestCareer

end Ipv4Router
