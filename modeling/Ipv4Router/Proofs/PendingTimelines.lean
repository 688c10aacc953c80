import Ipv4Router.Proofs.PendingQueues

/-!
# Uses of the pending requests

The pending requests are taken by themselves, apart from the router: frames are made to wait,
requests are resolved and polled, and time passes, in any order.  Each use leaves a report of
what is to be done about it, and the reports in the course of some uses are all that can be
observed of the pending requests.

The reports about one address depend on the request for this address only, although one list
holds all requests.
-/

namespace Ipv4Router

/-- Something that is done with the pending requests, or time that passes. -/
inductive PendingUse
  | enqueue (target : Ipv4Address) (frame : DatagramFrame) (interface : String)
  | resolve (target : Ipv4Address)
  | poll
  | wait (duration : Nat)
  deriving DecidableEq

/-- What is to be done after a use: requests to send, and requests that have failed. -/
structure PendingReport where
  time : Nat
  solicited : List Solicitation
  failed : List PendingRequest

/-- The pending requests at some time. -/
structure PendingMoment where
  now : Nat
  pending : PendingRequests

namespace PendingUse

/-- The frame that is made to wait for an address. -/
def frameFor? (target : Ipv4Address) : PendingUse → Option DatagramFrame
  | .enqueue other frame _ => if other = target then some frame else none
  | .resolve _ => none
  | .poll => none
  | .wait _ => none

/-- The times of the polls in the course of some uses, the first of which takes place at a
given time. -/
def pollTimes (now : Nat) : List PendingUse → List Nat
  | [] => []
  | .enqueue _ _ _ :: rest => pollTimes now rest
  | .resolve _ :: rest => pollTimes now rest
  | .poll :: rest => now :: pollTimes now rest
  | .wait duration :: rest => pollTimes (now + duration) rest

theorem isChain_pollTimes {earliest now : Nat} (past : earliest ≤ now) (uses : List PendingUse) :
    (earliest :: pollTimes now uses).IsChain (· ≤ ·) := by
  induction uses generalizing earliest now with
  | nil => exact List.IsChain.singleton earliest
  | cons first rest ih =>
      cases first with
      | enqueue target frame interface => exact ih past
      | resolve target => exact ih past
      | poll => exact List.isChain_cons_cons.mpr ⟨past, ih (Nat.le_refl now)⟩
      | wait duration => exact ih (Nat.le_trans past (Nat.le_add_right now duration))

/-- Frames that are made to wait do not change when the polls take place. -/
theorem pollTimes_filter (target : Ipv4Address) (now : Nat) (uses : List PendingUse) :
    pollTimes now (uses.filter (fun use => (use.frameFor? target).isNone)) =
      pollTimes now uses := by
  induction uses generalizing now with
  | nil => rfl
  | cons first rest ih =>
      cases first with
      | enqueue other frame interface =>
          rw [List.filter_cons]
          split <;> exact ih now
      | resolve other => exact ih now
      | poll => exact congrArg (now :: ·) (ih now)
      | wait duration => exact ih (now + duration)

end PendingUse

namespace PendingReport

/-- When, and out of which interface, a request for an address is to be sent. -/
def solicitationsOf (target : Ipv4Address) (report : PendingReport) : List (Nat × String) :=
  (report.solicited.filter (fun solicitation => solicitation.target = target)).map
    (fun solicitation => (report.time, solicitation.interface))

def failuresOf (target : Ipv4Address) (report : PendingReport) : List (Nat × PendingRequest) :=
  (report.failed.filter (fun request => request.target = target)).map
    (fun request => (report.time, request))

end PendingReport

namespace PendingMoment

open PendingUse

/-- The moment at which there are no pending requests yet. -/
def start (now : Nat) : PendingMoment :=
  ⟨now, []⟩

def use (schedule : RetransmitSchedule) (moment : PendingMoment) : PendingUse → PendingMoment
  | .enqueue target frame interface =>
      { moment with pending := (moment.pending.enqueue moment.now target frame interface).2 }
  | .resolve target => { moment with pending := (moment.pending.resolve target).2 }
  | .poll => { moment with pending := (moment.pending.poll schedule moment.now).remaining }
  | .wait duration => { moment with now := moment.now + duration }

def report (schedule : RetransmitSchedule) (moment : PendingMoment) : PendingUse → PendingReport
  | .enqueue target frame interface =>
      ⟨moment.now, (moment.pending.enqueue moment.now target frame interface).1.toList, []⟩
  | .resolve _ => ⟨moment.now, [], []⟩
  | .poll =>
      let outcome := moment.pending.poll schedule moment.now
      ⟨moment.now, outcome.retransmit, outcome.failed⟩
  | .wait _ => ⟨moment.now, [], []⟩

def after (schedule : RetransmitSchedule) (moment : PendingMoment) (uses : List PendingUse) :
    PendingMoment :=
  uses.foldl (use schedule) moment

/-- The reports in the course of some uses, in order. -/
def reports (schedule : RetransmitSchedule) (moment : PendingMoment) :
    List PendingUse → List PendingReport
  | [] => []
  | first :: rest =>
      moment.report schedule first :: (moment.use schedule first).reports schedule rest

variable {schedule : RetransmitSchedule} {moment : PendingMoment}

theorem after_append (schedule : RetransmitSchedule) (moment : PendingMoment)
    (uses : List PendingUse) (last : PendingUse) :
    moment.after schedule (uses ++ [last]) = (moment.after schedule uses).use schedule last := by
  rw [after, List.foldl_append]
  rfl

theorem reports_append (schedule : RetransmitSchedule) (moment : PendingMoment)
    (uses : List PendingUse) (last : PendingUse) :
    moment.reports schedule (uses ++ [last]) =
      moment.reports schedule uses ++ [(moment.after schedule uses).report schedule last] := by
  induction uses generalizing moment with
  | nil => rfl
  | cons first rest ih => exact congrArg _ (ih (moment.use schedule first))

theorem pollTimes_append (schedule : RetransmitSchedule) (moment : PendingMoment)
    (uses : List PendingUse) (last : PendingUse) :
    pollTimes moment.now (uses ++ [last]) =
      pollTimes moment.now uses ++ pollTimes (moment.after schedule uses).now [last] := by
  induction uses generalizing moment with
  | nil => rfl
  | cons first rest ih =>
      have restTimes := ih (moment.use schedule first)
      cases first with
      | enqueue target frame interface => exact restTimes
      | resolve target => exact restTimes
      | poll => exact congrArg (moment.now :: ·) restTimes
      | wait duration => exact restTimes

/-- What holds of the pending requests at every moment. -/
structure Sound (moment : PendingMoment) : Prop where
  distinct : moment.pending.Distinct
  past : ∀ request ∈ moment.pending, request.lastSent ≤ moment.now

theorem sound_start (now : Nat) : (start now).Sound where
  distinct := List.nodup_nil
  past := by simp [start]

theorem Sound.use (sound : moment.Sound) (schedule : RetransmitSchedule) (next : PendingUse) :
    (moment.use schedule next).Sound := by
  cases next with
  | enqueue target frame interface =>
      refine ⟨sound.distinct.enqueue, ?_⟩
      intro request member
      rcases PendingRequests.mem_enqueue member with old | ⟨joined, found, rfl⟩ | ⟨-, rfl⟩
      · exact sound.past request old
      · exact sound.past joined
          ((PendingRequests.find?_eq_some_iff sound.distinct).mp found).1
      · exact Nat.le_refl moment.now
  | resolve target =>
      refine ⟨sound.distinct.resolve target, ?_⟩
      intro request member
      exact sound.past request ((PendingRequests.mem_resolve sound.distinct).mp member).1
  | poll =>
      refine ⟨sound.distinct.remaining_poll, ?_⟩
      intro request member
      obtain ⟨old, present, -, rfl⟩ := PendingRequests.mem_remaining_poll.mp member
      rw [PendingRequest.afterPoll]
      split
      · exact Nat.le_refl moment.now
      · exact sound.past old present
  | wait duration =>
      exact ⟨sound.distinct, fun request member =>
        Nat.le_trans (sound.past request member) (Nat.le_add_right moment.now duration)⟩

theorem Sound.after (sound : moment.Sound) (schedule : RetransmitSchedule)
    (uses : List PendingUse) : (moment.after schedule uses).Sound := by
  induction uses generalizing moment with
  | nil => exact sound
  | cons first rest ih => exact ih (sound.use schedule first)

theorem failuresOf_of_ne_poll {next : PendingUse} (notPoll : next ≠ .poll)
    (target : Ipv4Address) : (moment.report schedule next).failuresOf target = [] := by
  cases next with
  | enqueue other frame interface => rfl
  | resolve other => rfl
  | poll => exact absurd rfl notPoll
  | wait duration => rfl

theorem solicitationsOf_enqueue (schedule : RetransmitSchedule) (moment : PendingMoment)
    (target other : Ipv4Address) (frame : DatagramFrame) (interface : String) :
    (moment.report schedule (.enqueue other frame interface)).solicitationsOf target =
      if other = target ∧ moment.pending.find? target = none then [(moment.now, interface)]
      else [] := by
  rw [report, PendingReport.solicitationsOf]
  cases found : moment.pending.find? other with
  | none =>
      rw [PendingRequests.enqueue_of_find?_eq_none found]
      by_cases same : other = target
      · subst same
        simp [found]
      · simp [same]
  | some request =>
      obtain ⟨before, after, -, extended⟩ :=
        PendingRequests.enqueue_of_find?_eq_some moment.now frame interface found
      rw [extended, if_neg]
      · rfl
      · rintro ⟨rfl, unknown⟩
        rw [found] at unknown
        cases unknown

theorem solicitationsOf_poll (distinct : moment.pending.Distinct) (target : Ipv4Address) :
    (moment.report schedule .poll).solicitationsOf target =
      ((moment.pending.find? target).filter (fun request =>
        request.isDue schedule moment.now && !request.isExhausted schedule)).toList.map
          (fun request => (moment.now, request.interface)) := by
  have polledDistinct : ((moment.pending.filter (fun request =>
      request.isDue schedule moment.now && !request.isExhausted schedule)).map
        PendingRequest.target).Nodup :=
    (List.filter_sublist.map _).nodup distinct
  rw [report, PendingReport.solicitationsOf, PendingRequests.retransmit_poll, List.filter_map,
    List.map_map, PendingRequests.find?, ← find?_key_filter distinct,
    ← filter_key_eq_toList polledDistinct]
  rfl

theorem failuresOf_poll (distinct : moment.pending.Distinct) (target : Ipv4Address) :
    (moment.report schedule .poll).failuresOf target =
      ((moment.pending.find? target).filter
        (PendingRequest.fails schedule moment.now)).toList.map (moment.now, ·) := by
  rw [report, PendingReport.failuresOf, ← PendingRequests.find?_failed_poll distinct,
    PendingRequests.find?, ← filter_key_eq_toList distinct.failed_poll]

/-- A request for an address comes from a frame that is made to wait for it. -/
theorem find?_use_eq_none (distinct : moment.pending.Distinct) {target : Ipv4Address}
    (unknown : moment.pending.find? target = none) {next : PendingUse}
    (notMade : ∀ frame interface, next ≠ .enqueue target frame interface) :
    (moment.use schedule next).pending.find? target = none := by
  cases next with
  | enqueue other frame interface =>
      have different : other ≠ target := fun same => notMade frame interface (same ▸ rfl)
      exact (PendingRequests.find?_enqueue_of_ne different).trans unknown
  | resolve other =>
      by_cases same : target = other
      · subst same
        exact PendingRequests.find?_resolve_self distinct
      · exact (PendingRequests.find?_resolve_of_ne distinct same).trans unknown
  | poll =>
      refine (PendingRequests.find?_remaining_poll distinct target).trans ?_
      rw [unknown]
      rfl
  | wait duration => exact unknown

theorem find?_use_of_failed (distinct : moment.pending.Distinct) {target : Ipv4Address}
    {next : PendingUse} (failed : (moment.report schedule next).failuresOf target ≠ []) :
    (moment.use schedule next).pending.find? target = none := by
  cases next with
  | enqueue other frame interface => exact absurd rfl failed
  | resolve other => exact absurd rfl failed
  | poll =>
      rw [failuresOf_poll distinct] at failed
      refine (PendingRequests.find?_remaining_poll distinct target).trans ?_
      cases found : moment.pending.find? target with
      | none => rfl
      | some request =>
          rw [found, Option.filter_some] at failed
          cases fails : request.fails schedule moment.now with
          | true =>
              rw [Option.filter_some, fails]
              rfl
          | false =>
              rw [fails] at failed
              exact absurd rfl failed
  | wait duration => exact absurd rfl failed

theorem failuresOf_of_unknown (distinct : moment.pending.Distinct) {target : Ipv4Address}
    (unknown : moment.pending.find? target = none) (next : PendingUse) :
    (moment.report schedule next).failuresOf target = [] := by
  by_cases polled : next = .poll
  · subst polled
    rw [failuresOf_poll distinct, unknown]
    rfl
  · exact failuresOf_of_ne_poll polled target

theorem length_failuresOf_le (distinct : moment.pending.Distinct) (next : PendingUse)
    (target : Ipv4Address) :
    ((moment.report schedule next).failuresOf target).length ≤ 1 := by
  by_cases polled : next = .poll
  · subst polled
    rw [failuresOf_poll distinct, List.length_map, Option.length_toList]
    split <;> omega
  · rw [failuresOf_of_ne_poll polled]
    exact Nat.zero_le 1

end PendingMoment

end Ipv4Router
