import Ipv4Router.PendingRequests
import Ipv4Router.Proofs.KeyedLists

/-!
# What the pending requests hold

Each operation on the pending requests is described by what it does to the frames
that wait for an address.  Enqueueing puts a frame at the end of the queue of its
target, resolving takes a whole queue out, and a poll hands over the queues of
the failed requests and keeps the others as they are.
-/

namespace Ipv4Router

namespace PendingRequest

/-- A request after it has seen one frame more. -/
def join (frame : DatagramFrame) (request : PendingRequest) : PendingRequest :=
  { request with frames := request.frames ++ [frame] }

/-- Whether a poll gives up a request. -/
def fails (schedule : RetransmitSchedule) (now : Nat) (request : PendingRequest) : Bool :=
  request.isDue schedule now && request.isExhausted schedule

/-- A request that a poll does not give up, as the poll leaves it. -/
def afterPoll (schedule : RetransmitSchedule) (now : Nat) (request : PendingRequest) :
    PendingRequest :=
  if request.isDue schedule now then request.resent now else request

variable {schedule : RetransmitSchedule} {now : Nat}

@[simp]
theorem target_afterPoll (request : PendingRequest) :
    (request.afterPoll schedule now).target = request.target := by
  unfold afterPoll
  split <;> rfl

@[simp]
theorem frames_afterPoll (request : PendingRequest) :
    (request.afterPoll schedule now).frames = request.frames := by
  unfold afterPoll
  split <;> rfl

theorem attempts_lt_of_not_exhausted {request : PendingRequest}
    (notExhausted : request.isExhausted schedule = false) :
    request.attempts.toNat < schedule.maximumAttempts.toNat := by
  have notReached : ¬ schedule.maximumAttempts ≤ request.attempts :=
    of_decide_eq_false notExhausted
  rw [UInt32.le_iff_toNat_le] at notReached
  omega

/-- Below a maximum of attempts there is room to count one more. -/
theorem toNat_attempts_resent {request : PendingRequest}
    (notExhausted : request.isExhausted schedule = false) (now : Nat) :
    (request.resent now).attempts.toNat = request.attempts.toNat + 1 := by
  have below := attempts_lt_of_not_exhausted notExhausted
  have bound := schedule.maximumAttempts.toNat_lt
  rw [resent, UInt32.toNat_add, UInt32.toNat_one]
  omega

end PendingRequest

namespace PendingRequests

/-- No two requests are for one address. -/
def Distinct (pending : PendingRequests) : Prop :=
  (pending.map PendingRequest.target).Nodup

/-- The frames that wait for an address, oldest first. -/
def framesFor (pending : PendingRequests) (target : Ipv4Address) : List DatagramFrame :=
  (pending.find? target).elim [] PendingRequest.frames

variable {pending : PendingRequests} {target : Ipv4Address} {now : Nat}
  {frame : DatagramFrame} {interface : String}

theorem find?_eq_some_iff (distinct : pending.Distinct) {request : PendingRequest} :
    pending.find? target = some request ↔ request ∈ pending ∧ request.target = target :=
  find?_key_eq_some_iff distinct

theorem target_of_find? {request : PendingRequest}
    (found : pending.find? target = some request) : request.target = target := by
  simpa using List.find?_some found

theorem find?_eq_none_iff :
    pending.find? target = none ↔ ∀ request ∈ pending, request.target ≠ target := by
  simp [find?, List.find?_eq_none]

theorem framesFor_eq_nil (unknown : pending.find? target = none) :
    pending.framesFor target = [] := by
  rw [framesFor, unknown]
  rfl

theorem find?_cons_self (request : PendingRequest) (rest : PendingRequests) :
    find? (request :: rest) request.target = some request := by
  simp [find?]

theorem find?_cons_of_ne {request : PendingRequest} {rest : PendingRequests}
    (distinct : request.target ≠ target) :
    find? (request :: rest) target = rest.find? target := by
  simp [find?, distinct]

theorem enqueue_of_find?_eq_none (unknown : pending.find? target = none) :
    pending.enqueue now target frame interface =
      (some ⟨target, interface⟩, pending ++ [⟨target, interface, [frame], 1, now⟩]) := by
  induction pending with
  | nil => rfl
  | cons request rest ih =>
      rw [find?_eq_none_iff] at unknown
      have other := unknown request List.mem_cons_self
      have restUnknown : find? rest target = none :=
        find?_eq_none_iff.mpr (fun later member => unknown later (List.mem_cons_of_mem _ member))
      simp only [enqueue, if_neg other, ih restUnknown, List.cons_append]

theorem enqueue_of_find?_eq_some (now : Nat) (frame : DatagramFrame) (interface : String)
    {request : PendingRequest} (found : pending.find? target = some request) :
    ∃ before after, pending = before ++ request :: after ∧
      pending.enqueue now target frame interface =
        (none, before ++ request.join frame :: after) := by
  induction pending with
  | nil => cases found
  | cons head rest ih =>
      by_cases same : head.target = target
      · subst same
        rw [find?_cons_self] at found
        cases found
        exact ⟨[], rest, rfl, by simp [enqueue, PendingRequest.join]⟩
      · rw [find?_cons_of_ne same] at found
        obtain ⟨before, after, rfl, extended⟩ := ih found
        refine ⟨head :: before, after, rfl, ?_⟩
        simp only [enqueue, if_neg same, extended, List.cons_append]

/-- Every request after enqueueing was there before, has been joined by the frame
or was made for it. -/
theorem mem_enqueue {request : PendingRequest}
    (member : request ∈ (pending.enqueue now target frame interface).2) :
    request ∈ pending ∨
      (∃ old, pending.find? target = some old ∧ request = old.join frame) ∨
      (pending.find? target = none ∧ request = ⟨target, interface, [frame], 1, now⟩) := by
  cases found : pending.find? target with
  | none =>
      rw [enqueue_of_find?_eq_none found] at member
      rcases List.mem_append.mp member with old | new
      · exact Or.inl old
      · exact Or.inr (Or.inr ⟨rfl, List.mem_singleton.mp new⟩)
  | some old =>
      obtain ⟨before, after, rfl, extended⟩ :=
        enqueue_of_find?_eq_some now frame interface found
      rw [extended] at member
      rcases List.mem_append.mp member with earlier | joinedOrLater
      · exact Or.inl (List.mem_append_left _ earlier)
      rcases List.mem_cons.mp joinedOrLater with joined | later
      · exact Or.inr (Or.inl ⟨old, rfl, joined⟩)
      · exact Or.inl (List.mem_append_right _ (List.mem_cons_of_mem _ later))

theorem Distinct.enqueue (distinct : pending.Distinct) :
    Distinct (pending.enqueue now target frame interface).2 := by
  cases found : pending.find? target with
  | none =>
      rw [enqueue_of_find?_eq_none found]
      simp only [Distinct, List.map_append, List.map_cons, List.map_nil]
      refine List.Nodup.append distinct (List.nodup_singleton target) ?_
      intro other member otherEq
      obtain ⟨request, present, rfl⟩ := List.mem_map.mp member
      exact find?_eq_none_iff.mp found request present (List.mem_singleton.mp otherEq)
  | some old =>
      obtain ⟨before, after, rfl, extended⟩ :=
        enqueue_of_find?_eq_some now frame interface found
      rw [extended]
      simpa [Distinct, PendingRequest.join] using distinct

/-- The request for the target of a new frame is the former one, joined by the frame, or is
made for it. -/
theorem find?_enqueue_self :
    find? (pending.enqueue now target frame interface).2 target =
      some (((pending.find? target).map (PendingRequest.join frame)).getD
        ⟨target, interface, [frame], 1, now⟩) := by
  induction pending with
  | nil => simp [enqueue, find?]
  | cons head rest ih =>
      by_cases same : head.target = target
      · subst same
        simp [enqueue, find?, PendingRequest.join]
      · simp only [enqueue, if_neg same, find?_cons_of_ne same, ih]

theorem framesFor_enqueue_self :
    framesFor (pending.enqueue now target frame interface).2 target =
      pending.framesFor target ++ [frame] := by
  rw [framesFor, find?_enqueue_self, framesFor]
  cases pending.find? target <;> rfl

theorem find?_enqueue_of_ne {other : Ipv4Address} (distinct : target ≠ other) :
    find? (pending.enqueue now target frame interface).2 other = pending.find? other := by
  induction pending with
  | nil => simp [enqueue, find?, distinct]
  | cons head rest ih =>
      by_cases same : head.target = target
      · have headOther : head.target ≠ other := same ▸ distinct
        simp [enqueue, same, find?, distinct]
      · simp only [enqueue, if_neg same]
        by_cases headOther : head.target = other
        · simp [find?, headOther]
        · rw [find?_cons_of_ne headOther, find?_cons_of_ne headOther]
          exact ih

theorem mem_resolve (distinct : pending.Distinct) {request : PendingRequest} :
    request ∈ (pending.resolve target).2 ↔ request ∈ pending ∧ request.target ≠ target := by
  induction pending with
  | nil => simp [resolve]
  | cons head rest ih =>
      obtain ⟨fresh, restDistinct⟩ := List.nodup_cons.mp distinct
      have restMembers := ih restDistinct
      simp only [resolve] at restMembers ⊢
      by_cases same : head.target = target
      · subst same
        rw [List.eraseP_cons_of_pos (by simp)]
        simp only [List.mem_cons]
        constructor
        · intro member
          refine ⟨Or.inr member, fun equal => fresh ?_⟩
          exact List.mem_map.mpr ⟨request, member, equal⟩
        · rintro ⟨rfl | member, other⟩
          · exact absurd rfl other
          · exact member
      · rw [List.eraseP_cons_of_neg (by simpa using same), List.mem_cons, restMembers,
          List.mem_cons]
        constructor
        · rintro (rfl | ⟨member, other⟩)
          · exact ⟨Or.inl rfl, same⟩
          · exact ⟨Or.inr member, other⟩
        · rintro ⟨rfl | member, other⟩
          · exact Or.inl rfl
          · exact Or.inr ⟨member, other⟩

theorem Distinct.resolve (distinct : pending.Distinct) (target : Ipv4Address) :
    Distinct (pending.resolve target).2 :=
  (List.eraseP_sublist.map _).nodup distinct

theorem find?_resolve_self (distinct : pending.Distinct) :
    find? (pending.resolve target).2 target = none := by
  rw [find?_eq_none_iff]
  exact fun request member => ((mem_resolve distinct).mp member).2

theorem find?_resolve_of_ne (distinct : pending.Distinct) {other : Ipv4Address}
    (different : other ≠ target) :
    find? (pending.resolve target).2 other = pending.find? other := by
  apply Option.ext
  intro request
  rw [find?_eq_some_iff (distinct.resolve target), find?_eq_some_iff distinct,
    mem_resolve distinct]
  constructor
  · rintro ⟨⟨member, -⟩, targetEq⟩
    exact ⟨member, targetEq⟩
  · rintro ⟨member, rfl⟩
    exact ⟨⟨member, different⟩, rfl⟩

/-- Taking a queue out lets no frame wait that has not waited before. -/
theorem mem_framesFor_of_resolve (distinct : pending.Distinct) {other : Ipv4Address}
    (waits : frame ∈ framesFor (pending.resolve target).2 other) :
    frame ∈ pending.framesFor other := by
  by_cases same : other = target
  · subst same
    rw [framesFor_eq_nil (find?_resolve_self distinct)] at waits
    cases waits
  · rwa [framesFor, find?_resolve_of_ne distinct same] at waits

section Poll

variable (schedule : RetransmitSchedule) (now : Nat) (pending : PendingRequests)

theorem failed_poll :
    (pending.poll schedule now).failed =
      pending.filter (PendingRequest.fails schedule now) := by
  induction pending with
  | nil => rfl
  | cons request rest ih =>
      by_cases due : request.isDue schedule now <;>
        by_cases exhausted : request.isExhausted schedule <;>
          simp [poll, PendingRequest.fails, due, exhausted, ih]

theorem retransmit_poll :
    (pending.poll schedule now).retransmit =
      (pending.filter (fun request =>
        request.isDue schedule now && !request.isExhausted schedule)).map
          PendingRequest.solicitation := by
  induction pending with
  | nil => rfl
  | cons request rest ih =>
      by_cases due : request.isDue schedule now <;>
        by_cases exhausted : request.isExhausted schedule <;>
          simp [poll, due, exhausted, ih]

theorem remaining_poll :
    (pending.poll schedule now).remaining =
      (pending.filter (fun request => !request.fails schedule now)).map
        (PendingRequest.afterPoll schedule now) := by
  induction pending with
  | nil => rfl
  | cons request rest ih =>
      by_cases due : request.isDue schedule now <;>
        by_cases exhausted : request.isExhausted schedule <;>
          simp [poll, PendingRequest.fails, PendingRequest.afterPoll, due, exhausted, ih]

variable {pending} {schedule} {now}

theorem mem_remaining_poll {request : PendingRequest} :
    request ∈ (pending.poll schedule now).remaining ↔
      ∃ old ∈ pending, old.fails schedule now = false ∧
        old.afterPoll schedule now = request := by
  simp [remaining_poll, and_assoc]

theorem target_mem_remaining_poll :
    ((pending.poll schedule now).remaining.map PendingRequest.target) =
      (pending.filter (fun request => !request.fails schedule now)).map
        PendingRequest.target := by
  simp [remaining_poll, Function.comp_def]

theorem Distinct.remaining_poll (distinct : pending.Distinct) :
    Distinct (pending.poll schedule now).remaining := by
  rw [Distinct, target_mem_remaining_poll]
  exact (List.filter_sublist.map _).nodup distinct

theorem Distinct.failed_poll (distinct : pending.Distinct) :
    Distinct (pending.poll schedule now).failed := by
  rw [Distinct, PendingRequests.failed_poll]
  exact (List.filter_sublist.map _).nodup distinct

/-- What a poll sends again is a pending request that is due and not exhausted. -/
theorem find?_of_mem_retransmit_poll (distinct : pending.Distinct) {solicitation : Solicitation}
    (member : solicitation ∈ (pending.poll schedule now).retransmit) :
    ∃ request, pending.find? solicitation.target = some request ∧
      request.isDue schedule now = true ∧ request.isExhausted schedule = false := by
  rw [retransmit_poll] at member
  obtain ⟨request, polled, rfl⟩ := List.mem_map.mp member
  obtain ⟨present, due, notExhausted⟩ : request ∈ pending ∧
      request.isDue schedule now = true ∧ request.isExhausted schedule = false := by
    simpa using List.mem_filter.mp polled
  exact ⟨request, (find?_eq_some_iff distinct).mpr ⟨present, rfl⟩, due, notExhausted⟩

/-- A poll sends at most one request for an address again. -/
theorem Distinct.retransmit_poll (distinct : pending.Distinct) :
    ((pending.poll schedule now).retransmit.map Solicitation.target).Nodup := by
  rw [PendingRequests.retransmit_poll, List.map_map]
  exact (List.filter_sublist.map _).nodup distinct

theorem find?_failed_poll (distinct : pending.Distinct) (target : Ipv4Address) :
    find? (pending.poll schedule now).failed target =
      (pending.find? target).filter (PendingRequest.fails schedule now) := by
  rw [PendingRequests.failed_poll]
  exact find?_key_filter distinct _ target

theorem find?_remaining_poll (distinct : pending.Distinct) (target : Ipv4Address) :
    find? (pending.poll schedule now).remaining target =
      ((pending.find? target).filter (fun request => !request.fails schedule now)).map
        (PendingRequest.afterPoll schedule now) := by
  rw [PendingRequests.remaining_poll, find?, List.find?_map]
  simp only [Function.comp_def, PendingRequest.target_afterPoll]
  exact congrArg _ (find?_key_filter distinct _ target)

theorem find?_remaining_poll_of_kept (distinct : pending.Distinct) {request : PendingRequest}
    (found : pending.find? target = some request) (kept : request.fails schedule now = false) :
    find? (pending.poll schedule now).remaining target =
      some (request.afterPoll schedule now) := by
  rw [find?_remaining_poll distinct, found, Option.filter_some, kept]
  rfl

/-- A poll divides the queue of an address between the failed requests and those
that stay; one of the two gets all of it. -/
theorem framesFor_poll (distinct : pending.Distinct) (target : Ipv4Address) :
    pending.framesFor target =
      framesFor (pending.poll schedule now).failed target ++
        framesFor (pending.poll schedule now).remaining target := by
  simp only [framesFor, find?_failed_poll distinct, find?_remaining_poll distinct]
  cases pending.find? target with
  | none => rfl
  | some request =>
      by_cases fails : request.fails schedule now <;> simp [Option.filter, fails]

end Poll

end PendingRequests

end Ipv4Router
