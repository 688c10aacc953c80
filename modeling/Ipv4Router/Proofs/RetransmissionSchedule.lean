import Ipv4Router.Proofs.RequestCareers

/-!
# The retransmission schedule

Pending requests that are empty at first are used in any way.  Then the requests that are
pending are exactly those with a career in these uses that is still open, and each of them is
as its career describes it.  What the careers say about the times at which requests are sent
and given up is thereby said of the list that is polled.
-/

namespace Ipv4Router

namespace RequestCareer

open PendingUse

variable {schedule : RetransmitSchedule} {career : RequestCareer} {request : PendingRequest}

/-- The career as it were if no other frame had been made to wait for the address. -/
def alone (career : RequestCareer) : RequestCareer :=
  { career with since :=
      career.since.filter (fun next => (next.frameFor? career.target).isNone) }

/-- What the schedule promises of a request that is pending. -/
structure KeepsSchedule (schedule : RetransmitSchedule) (career : RequestCareer) : Prop where
  begins : (career.times schedule).head? = some career.opening.now
  spaced : (career.times schedule).IsChain schedule.Spaced
  limited : (career.times schedule).length ≤ schedule.limit
  interface : ∀ sending ∈ career.sent schedule, sending.2 = career.interface
  undisturbed : career.alone.Open schedule ∧ career.alone.sent schedule = career.sent schedule

theorem isChain_dueTimes (schedule : RetransmitSchedule) (career : RequestCareer) :
    (career.opening.now :: career.dueTimes schedule).IsChain schedule.Spaced :=
  RetransmitSchedule.isChain_dueTimes (isChain_pollTimes (Nat.le_refl career.opening.now) _)

theorem dueTimes_alone (schedule : RetransmitSchedule) (career : RequestCareer) :
    career.alone.dueTimes schedule = career.dueTimes schedule :=
  congrArg (schedule.dueTimes career.opening.now)
    (pollTimes_filter career.target career.opening.now career.since)

theorem Open.keepsSchedule (sound : career.opening.Sound) (isOpen : career.Open schedule) :
    career.KeepsSchedule schedule := by
  have within := isOpen.length_dueTimes_lt sound
  obtain ⟨request, stands⟩ := isOpen.exists_stands sound
  have aloneUnresolved : .resolve career.target ∉ career.alone.since :=
    fun resolved => isOpen.unresolved (List.mem_filter.mp resolved).1
  obtain ⟨aloneRequest, aloneStands⟩ : ∃ request, career.alone.Stands schedule request := by
    refine RequestCareer.exists_stands sound isOpen.made aloneUnresolved ?_
    rw [dueTimes_alone]
    exact within
  refine ⟨?_, ?_, ?_, ?_, ⟨isOpen.made, aloneUnresolved, aloneStands.unfailed⟩, ?_⟩
  · rw [stands.times_eq, List.head?_cons]
  · rw [stands.times_eq]
    exact career.isChain_dueTimes schedule
  · rw [stands.times_eq, List.length_cons]
    exact within
  · intro sending member
    rw [stands.sent] at member
    obtain ⟨time, -, rfl⟩ := List.mem_map.mp member
    rfl
  · rw [aloneStands.sent, stands.sent, dueTimes_alone]
    rfl

/-- The career is a part of what is done with pending requests that are empty at first. -/
def IsPartOf (schedule : RetransmitSchedule) (origin : Nat) (all : List PendingUse)
    (career : RequestCareer) : Prop :=
  ∃ before, all = before ++ career.uses ∧
    career.opening = (PendingMoment.start origin).after schedule before

variable {origin : Nat} {all : List PendingUse}

theorem IsPartOf.sound (part : career.IsPartOf schedule origin all) : career.opening.Sound := by
  obtain ⟨before, -, opening⟩ := part
  rw [opening]
  exact (PendingMoment.sound_start origin).after schedule before

theorem IsPartOf.moment_eq (part : career.IsPartOf schedule origin all) :
    career.moment schedule = (PendingMoment.start origin).after schedule all := by
  obtain ⟨before, rfl, opening⟩ := part
  rw [moment, opening, PendingMoment.after, PendingMoment.after, PendingMoment.after,
    List.foldl_append]

theorem IsPartOf.further (part : career.IsPartOf schedule origin all) (next : PendingUse) :
    (career.further next).IsPartOf schedule origin (all ++ [next]) := by
  obtain ⟨before, rfl, opening⟩ := part
  exact ⟨before, List.append_assoc _ _ _, opening⟩

theorem Open.further (isOpen : career.Open schedule) {next : PendingUse}
    (distinct : (career.moment schedule).pending.Distinct)
    (pending : ((career.moment schedule).use schedule next).pending.find? career.target ≠ none) :
    (career.further next).Open schedule where
  made := isOpen.made
  unresolved := by
    intro resolved
    rcases List.mem_append.mp resolved with earlier | now
    · exact isOpen.unresolved earlier
    · rw [← List.mem_singleton.mp now] at pending
      exact pending (PendingRequests.find?_resolve_self distinct)
  unfailed := by
    rw [failures_further, isOpen.unfailed, List.nil_append]
    by_contra failed
    exact pending (PendingMoment.find?_use_of_failed distinct failed)

/-- Whatever is pending has a career in which it is open. -/
theorem exists_open {target : Ipv4Address}
    (pending : ((PendingMoment.start origin).after schedule all).pending.find? target ≠ none) :
    ∃ career : RequestCareer, career.IsPartOf schedule origin all ∧ career.target = target ∧
      career.Open schedule := by
  induction all using List.reverseRecOn with
  | nil => exact absurd rfl pending
  | append_singleton earlier next ih =>
      have sound := (PendingMoment.sound_start origin).after schedule earlier
      rw [PendingMoment.after_append] at pending
      by_cases unknown :
          ((PendingMoment.start origin).after schedule earlier).pending.find? target = none
      · obtain ⟨frame, interface, rfl⟩ :
            ∃ frame interface, next = .enqueue target frame interface := by
          by_contra notMade
          push Not at notMade
          exact pending (PendingMoment.find?_use_eq_none sound.distinct unknown notMade)
        refine ⟨⟨_, target, frame, interface, []⟩, ⟨earlier, rfl, rfl⟩, rfl, unknown, ?_, rfl⟩
        exact List.not_mem_nil
      · obtain ⟨career, part, rfl, isOpen⟩ := ih unknown
        rw [← part.moment_eq] at sound pending
        exact ⟨career.further next, part.further next, rfl,
          isOpen.further sound.distinct pending⟩

theorem Superseded.further (superseded : career.Superseded schedule) (next : PendingUse) :
    (career.further next).Superseded schedule := by
  obtain ⟨earlier, frame, interface, later, since, unknown⟩ := superseded
  refine ⟨earlier, frame, interface, later ++ [next], ?_, unknown⟩
  rw [RequestCareer.further, since, List.append_assoc, List.cons_append]

/-- Once a request has failed it stays out of the list, until another is made. -/
theorem failures_of_not_superseded (sound : career.opening.Sound)
    (notSuperseded : ¬ career.Superseded schedule) :
    (career.failures schedule).length ≤ 1 ∧ (career.failures schedule ≠ [] →
      (career.moment schedule).pending.find? career.target = none) := by
  induction career using induct with
  | begin opening target frame interface => exact ⟨Nat.zero_le 1, fun failed => absurd rfl failed⟩
  | further career next ih =>
      have distinct := (career.sound_moment schedule sound).distinct
      obtain ⟨atMostOnce, gone⟩ :=
        ih sound (fun superseded => notSuperseded (superseded.further next))
      rw [failures_further, moment_further]
      by_cases failed : career.failures schedule = []
      · rw [failed, List.nil_append]
        exact ⟨PendingMoment.length_failuresOf_le distinct next career.target,
          PendingMoment.find?_use_of_failed distinct⟩
      · have unknown := gone failed
        have notMade : ∀ frame interface, next ≠ .enqueue career.target frame interface := by
          rintro frame interface rfl
          exact notSuperseded ⟨career.since, frame, interface, [], rfl, unknown⟩
        rw [PendingMoment.failuresOf_of_unknown distinct unknown, List.append_nil]
        exact ⟨atMostOnce, fun _ => PendingMoment.find?_use_eq_none distinct unknown notMade⟩

theorem exists_stands_of_mem
    (member : request ∈ ((PendingMoment.start origin).after schedule all).pending) :
    ∃ career : RequestCareer, career.IsPartOf schedule origin all ∧ career.Open schedule ∧
      career.Stands schedule request := by
  have sound := (PendingMoment.sound_start origin).after schedule all
  have found := (PendingRequests.find?_eq_some_iff sound.distinct).mpr ⟨member, rfl⟩
  obtain ⟨career, part, sameTarget, isOpen⟩ : ∃ career : RequestCareer,
      career.IsPartOf schedule origin all ∧ career.target = request.target ∧
        career.Open schedule := by
    apply exists_open
    rw [found]
    exact Option.some_ne_none request
  obtain ⟨standing, stands⟩ := isOpen.exists_stands part.sound
  have same := stands.found
  rw [part.moment_eq, sameTarget, found] at same
  obtain rfl := Option.some.inj same
  exact ⟨career, part, isOpen, stands⟩

theorem Stands.mem_pending (stands : career.Stands schedule request)
    (part : career.IsPartOf schedule origin all) :
    request ∈ ((PendingMoment.start origin).after schedule all).pending := by
  rw [← part.moment_eq]
  exact List.mem_of_find?_eq_some stands.found

theorem mem_pending_iff :
    request ∈ ((PendingMoment.start origin).after schedule all).pending ↔
      ∃ career : RequestCareer, career.IsPartOf schedule origin all ∧ career.Open schedule ∧
        career.Describes schedule request := by
  constructor
  · intro member
    obtain ⟨career, part, isOpen, stands⟩ := exists_stands_of_mem member
    exact ⟨career, part, isOpen, stands.describes⟩
  · rintro ⟨career, part, isOpen, describes⟩
    obtain ⟨standing, stands⟩ := isOpen.exists_stands part.sound
    rw [describes.eq stands.describes]
    exact stands.mem_pending part

theorem isDue_of_mem
    (member : request ∈ ((PendingMoment.start origin).after schedule all).pending) :
    request.isDue schedule ((PendingMoment.start origin).after schedule all).now =
      decide (request.lastSent + schedule.interval ≤
        ((PendingMoment.start origin).after schedule all).now) := by
  have past := ((PendingMoment.sound_start origin).after schedule all).past request member
  rw [PendingRequest.isDue, Bool.eq_iff_iff, decide_eq_true_eq, decide_eq_true_eq]
  omega

theorem isExhausted_of_mem
    (member : request ∈ ((PendingMoment.start origin).after schedule all).pending) :
    request.isExhausted schedule = decide (schedule.limit ≤ request.attempts.toNat) := by
  obtain ⟨career, -, -, stands⟩ := exists_stands_of_mem member
  rw [stands.isExhausted_eq, ← stands.attempts]

theorem solicited_poll (schedule : RetransmitSchedule) (origin : Nat) (all : List PendingUse) :
    let moment := (PendingMoment.start origin).after schedule all
    (moment.report schedule .poll).solicited =
      (moment.pending.filter (fun request =>
        decide (request.lastSent + schedule.interval ≤ moment.now) &&
          !decide (schedule.limit ≤ request.attempts.toNat))).map
            PendingRequest.solicitation := by
  intro moment
  refine (PendingRequests.retransmit_poll schedule moment.now moment.pending).trans ?_
  congr 1
  apply List.filter_congr
  intro request member
  rw [isDue_of_mem member, isExhausted_of_mem member]

theorem failed_poll (schedule : RetransmitSchedule) (origin : Nat) (all : List PendingUse) :
    let moment := (PendingMoment.start origin).after schedule all
    (moment.report schedule .poll).failed =
      moment.pending.filter (fun request =>
        decide (request.lastSent + schedule.interval ≤ moment.now) &&
          decide (schedule.limit ≤ request.attempts.toNat)) := by
  intro moment
  refine (PendingRequests.failed_poll schedule moment.now moment.pending).trans ?_
  apply List.filter_congr
  intro request member
  rw [PendingRequest.fails, isDue_of_mem member, isExhausted_of_mem member]

/-- A request that is given up was sent as often as the limit allows, an interval or more
apart. -/
theorem Describes.attempts_of_failed (describes : career.Describes schedule request)
    (part : career.IsPartOf schedule origin all) (isOpen : career.Open schedule)
    (failed : request ∈
      (((PendingMoment.start origin).after schedule all).report schedule .poll).failed) :
    request.attempts.toNat = schedule.limit ∧
      career.opening.now + schedule.limit * schedule.interval ≤
        ((PendingMoment.start origin).after schedule all).now := by
  obtain ⟨standing, stands⟩ := isOpen.exists_stands part.sound
  obtain rfl := describes.eq stands.describes
  rw [RequestCareer.failed_poll] at failed
  obtain ⟨-, acts⟩ := List.mem_filter.mp failed
  obtain ⟨due, spent⟩ := Bool.and_eq_true_iff.mp acts
  rw [decide_eq_true_eq, stands.lastSent] at due
  rw [decide_eq_true_eq] at spent
  have within := isOpen.length_dueTimes_lt part.sound
  have attempts := stands.attempts
  have isLimit : request.attempts.toNat = schedule.limit := by omega
  have spread := RetransmitSchedule.add_mul_le_getLastD (career.isChain_dueTimes schedule)
  refine ⟨isLimit, ?_⟩
  rw [← isLimit, attempts, Nat.succ_mul]
  omega

theorem dueTimes_of_multiples {count : Nat}
    (regular : pollTimes career.opening.now career.uses =
      (List.range count).map (fun n => career.opening.now + (n + 1) * schedule.interval)) :
    career.opening.now :: career.dueTimes schedule =
      (List.range (count + 1)).map (fun n => career.opening.now + n * schedule.interval) := by
  have multiples : career.opening.now :: pollTimes career.opening.now career.uses =
      (List.range (count + 1)).map
        (fun n => career.opening.now + n * schedule.interval) := by
    rw [regular, List.range_succ_eq_map, List.map_cons, List.map_map, Nat.zero_mul, Nat.add_zero]
    rfl
  rw [dueTimes, RetransmitSchedule.dueTimes_of_isChain, multiples]
  rw [multiples]
  exact schedule.isChain_multiples career.opening.now count

/-- With regular polls, the request is sent at each of them and stays open below the limit. -/
theorem IsPartOf.exists_stands_of_multiples (part : career.IsPartOf schedule origin all)
    (made : career.opening.pending.find? career.target = none)
    (unresolved : .resolve career.target ∉ career.since) {count : Nat}
    (within : count < schedule.limit)
    (regular : pollTimes career.opening.now career.uses =
      (List.range count).map (fun n => career.opening.now + (n + 1) * schedule.interval)) :
    ∃ request, career.Stands schedule request ∧
      request.attempts.toNat = count + 1 ∧
      request.lastSent = career.opening.now + count * schedule.interval := by
  have multiples := dueTimes_of_multiples regular
  have length : (career.dueTimes schedule).length = count := by
    simpa using congrArg List.length multiples
  obtain ⟨request, stands⟩ : ∃ request, career.Stands schedule request :=
    exists_stands part.sound made unresolved (length.trans_lt within)
  refine ⟨request, stands, stands.attempts.trans (congrArg (· + 1) length), ?_⟩
  have lastTime := stands.describes.lastSent
  rw [stands.times_eq, multiples, List.getLast?_map, List.getLast?_range,
    if_neg (Nat.succ_ne_zero count)] at lastTime
  exact (Option.some.inj lastTime).symm

/-- In the course of any uses of pending requests, the requests that are pending are those that
were made and neither resolved nor given up since.  Each is sent when it is made and again when
an interval or more has passed, as often as the limit allows, out of the interface that it was
made with; frames that join it change nothing of this.

A poll sends a request again, or gives it up if it was sent as often as allowed, exactly if an
interval has passed.  A request is given up once, not before the interval has passed as often as
it was sent.  If it is polled at just these times and not resolved, then it is sent at each of
them, and given up at the last. -/
theorem retransmission_schedule (schedule : RetransmitSchedule) (origin : Nat)
    (all : List PendingUse) :
    let moment := (PendingMoment.start origin).after schedule all
    let poll := moment.report schedule .poll
    let due := fun request : PendingRequest =>
      decide (request.lastSent + schedule.interval ≤ moment.now)
    let spent := fun request : PendingRequest =>
      decide (schedule.limit ≤ request.attempts.toNat)
    (∀ request, request ∈ moment.pending ↔ ∃ career : RequestCareer,
      career.IsPartOf schedule origin all ∧ career.Open schedule ∧
        career.Describes schedule request) ∧
    (∀ career : RequestCareer, career.IsPartOf schedule origin all → career.Open schedule →
      career.KeepsSchedule schedule ∧ ∃ request, career.Describes schedule request) ∧
    moment.pending.Distinct ∧
    poll.solicited = (moment.pending.filter (fun request => due request && !spent request)).map
      PendingRequest.solicitation ∧
    poll.failed = moment.pending.filter (fun request => due request && spent request) ∧
    (∀ career : RequestCareer, career.IsPartOf schedule origin all → career.Open schedule →
      ∀ request ∈ poll.failed, career.Describes schedule request →
        request.attempts.toNat = schedule.limit ∧
          career.opening.now + schedule.limit * schedule.interval ≤ moment.now) ∧
    (∀ career : RequestCareer, career.IsPartOf schedule origin all →
      ¬ career.Superseded schedule → (career.failures schedule).length ≤ 1) ∧
    (∀ career : RequestCareer, career.IsPartOf schedule origin all →
      career.opening.pending.find? career.target = none →
      .resolve career.target ∉ career.since → ∀ count < schedule.limit,
      pollTimes career.opening.now career.uses =
        (List.range count).map
          (fun n => career.opening.now + (n + 1) * schedule.interval) →
      career.Open schedule ∧
      career.times schedule =
        (List.range (count + 1)).map (fun n => career.opening.now + n * schedule.interval) ∧
      (count + 1 = schedule.limit →
        moment.now = career.opening.now + schedule.limit * schedule.interval →
        ∃ request ∈ poll.failed, career.Describes schedule request)) := by
  intro moment poll due spent
  refine ⟨fun request => mem_pending_iff, ?_,
    ((PendingMoment.sound_start origin).after schedule all).distinct,
    solicited_poll schedule origin all, failed_poll schedule origin all, ?_, ?_, ?_⟩
  · intro career part isOpen
    obtain ⟨request, stands⟩ := isOpen.exists_stands part.sound
    exact ⟨isOpen.keepsSchedule part.sound, request, stands.describes⟩
  · intro career part isOpen request failed describes
    exact describes.attempts_of_failed part isOpen failed
  · intro career part notSuperseded
    exact (failures_of_not_superseded part.sound notSuperseded).1
  · intro career part made unresolved count within regular
    obtain ⟨request, stands, attempts, lastSent⟩ :=
      part.exists_stands_of_multiples made unresolved within regular
    refine ⟨⟨made, unresolved, stands.unfailed⟩,
      stands.times_eq.trans (dueTimes_of_multiples regular), ?_⟩
    intro last now
    refine ⟨request, ?_, stands.describes⟩
    have failed : poll.failed = moment.pending.filter
        (fun request => due request && spent request) := failed_poll schedule origin all
    rw [failed, List.mem_filter, Bool.and_eq_true_iff, decide_eq_true_eq, decide_eq_true_eq,
      lastSent, attempts, last, now, ← last, Nat.succ_mul]
    exact ⟨stands.mem_pending part, Nat.le_of_eq (Nat.add_assoc _ _ _), Nat.le_refl _⟩

/-- A request that may not be attempted at all is sent nevertheless, when it is made. -/
example :
    let career : RequestCareer :=
      ⟨.start 0, ⟨10, 0, 0, 1⟩, ⟨[], .originated⟩, "eth0", [.wait 1000, .poll]⟩
    career.times ⟨1000, 0⟩ = [0] ∧ (career.failures ⟨1000, 0⟩).map Prod.fst = [1000] := by
  decide

end RequestCareer

end Ipv4Router
