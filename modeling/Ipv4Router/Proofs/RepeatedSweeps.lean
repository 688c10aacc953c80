import Ipv4Router.Proofs.NeighborHistory
import Ipv4Router.Proofs.ResolutionInvariant

/-!
# Sweeps that follow at once

A sweep finds something to do only if time has passed since the last one.  It leaves no
outdated neighbour, and none of the requests it leaves is due: those that were due are sent
again, which makes them new, or have failed.

The errors about the failed requests do not change this, although they may have to wait
themselves.  An error that makes a request makes it now, and one that joins a request does not
touch the time at which that was sent.  So what a sweep leaves behind is described by an
invariant of the actions of a turn, which holds at its opening and therefore at its end.
-/

namespace Ipv4Router

namespace PendingRequest

/-- A request that has just been sent is not due. -/
theorem isDue_eq_false_of_lastSent {schedule : RetransmitSchedule} {now : Nat}
    {request : PendingRequest} (positive : 0 < schedule.interval)
    (sentNow : request.lastSent = now) : request.isDue schedule now = false := by
  rw [isDue, sentNow, Nat.sub_self]
  exact decide_eq_false (Nat.not_le_of_lt positive)

end PendingRequest

namespace PendingRequests

/-- A poll would leave all requests as they are. -/
def NoneDue (schedule : RetransmitSchedule) (now : Nat) (pending : PendingRequests) : Prop :=
  ∀ request ∈ pending, request.isDue schedule now = false

variable {schedule : RetransmitSchedule} {now : Nat} {pending : PendingRequests}

theorem NoneDue.poll_eq (early : pending.NoneDue schedule now) :
    pending.poll schedule now = ⟨[], [], pending⟩ := by
  induction pending with
  | nil => rfl
  | cons request rest ih =>
      obtain ⟨first, others⟩ := List.forall_mem_cons.mp early
      simp [poll, first, ih others]

theorem noneDue_remaining_poll (positive : 0 < schedule.interval) (pending : PendingRequests) :
    (pending.poll schedule now).remaining.NoneDue schedule now := by
  intro request member
  obtain ⟨old, -, -, rfl⟩ := mem_remaining_poll.mp member
  cases due : old.isDue schedule now with
  | false =>
      rw [PendingRequest.afterPoll, due]
      exact due
  | true =>
      rw [PendingRequest.afterPoll, due]
      exact PendingRequest.isDue_eq_false_of_lastSent positive rfl

theorem NoneDue.enqueue (early : pending.NoneDue schedule now) (positive : 0 < schedule.interval)
    (target : Ipv4Address) (frame : DatagramFrame) (interface : String) :
    (pending.enqueue now target frame interface).2.NoneDue schedule now := by
  intro request member
  rcases mem_enqueue member with old | ⟨old, found, rfl⟩ | ⟨-, rfl⟩
  · exact early request old
  · exact early old (List.mem_of_find?_eq_some found)
  · exact PendingRequest.isDue_eq_false_of_lastSent positive rfl

end PendingRequests

namespace Router

/-- What a sweep is to leave behind: the time that no neighbour precedes is recent, and no
request is due. -/
structure Swept (router : Router) (state : RouterState) : Prop where
  recent : state.now ≤ state.neighbors.oldest + router.settings.cacheLifetime
  early : state.pending.NoneDue router.schedule state.now

variable {router : Router} {environment : Environment} {state : RouterState}

theorem Swept.refresh_eq (swept : router.Swept state) : router.refresh state = state := by
  rw [refresh, NeighborCache.expire, if_pos swept.recent, swept.early.poll_eq]

theorem Swept.sweep_eq (swept : router.Swept state) :
    router.sweep environment (Turn.start state) = Turn.start state := by
  have nothing : state.pending.poll router.schedule state.now = ⟨[], [], state.pending⟩ :=
    swept.early.poll_eq
  rw [Router.sweep_eq]
  simp only [Turn.start, nothing, swept.refresh_eq, List.flatMap_nil, List.foldl_nil]

section Positive

variable (positive : 0 < router.settings.retransmitInterval)

include positive

theorem swept_refresh (state : RouterState) : router.Swept (router.refresh state) where
  recent := state.neighbors.le_oldest_expire _ _
  early := PendingRequests.noneDue_remaining_poll positive _

theorem Swept.await (swept : router.Swept state) (outbound : Outbound) :
    router.Swept (state.await outbound) where
  recent := swept.recent
  early := swept.early.enqueue positive _ _ _

theorem Swept.output {turn : Turn} {outbound : Outbound} (swept : router.Swept turn.state)
    (delivers : router.Delivers outbound) :
    router.Swept (router.output environment turn outbound).1.state := by
  rw [state_output delivers]
  split
  · exact swept
  · exact swept.await positive outbound

theorem Action.swept {stage next : Stage} (action : router.Action environment stage next)
    (swept : router.Swept stage.turn.state) : router.Swept next.turn.state := by
  cases action with
  | accept delivers behind => exact Swept.output positive swept delivers
  | resume delivers known => exact Swept.output positive swept delivers
  | abandon => exact swept
  | ask known => exact swept
  | reply known owned => exact swept

theorem swept_sweep (consistent : router.Consistent state) :
    router.Swept (router.sweep environment (Turn.start state)).state :=
  Course.preserves (fun action => Action.swept positive action) (sweep_course consistent)
    (swept_refresh positive state)

/-- A second sweep at the same time hands nothing to the link and changes nothing that the
router remembers, whatever the link did with the frames of the first one. -/
theorem second_sweep_idle (events : List (Environment × RouterEvent))
    (first second : Environment) :
    let swept := (router.step first (router.run .initial events) .sweep).1.state
    router.step second swept .sweep = (Turn.start swept, .ok ()) := by
  intro swept
  have consistent : router.Consistent (router.run .initial events) :=
    (consistent_initial router).run events
  have leftBehind : router.Swept swept := swept_sweep positive consistent
  rw [step, leftBehind.sweep_eq]

end Positive

/-- A gateway does not answer, so two senders are told that it cannot be reached.  One of them is
not known either, which makes a new request.  The other is already being asked for, and the error
joins the datagram that waits for it.  The next sweep finds nothing to do about either. -/
theorem second_sweep_idle_errors :
    let lan : Interface := ⟨"lan", ⟨2, 0, 0, 0, 0, 1⟩, ⟨10, 0, 0, 1⟩⟩
    let wan : Interface := ⟨"wan", ⟨2, 0, 0, 0, 0, 2⟩, ⟨10, 0, 1, 1⟩⟩
    let peer : Ipv4Address := ⟨10, 0, 0, 7⟩
    let other : Ipv4Address := ⟨10, 0, 0, 8⟩
    let gateway : Ipv4Address := ⟨10, 0, 1, 9⟩
    let inside : Route := ⟨⟨10, 0, 0, 0⟩, .unspecified, ⟨255, 255, 255, 0⟩, "lan"⟩
    let outside : Route := ⟨⟨10, 2, 0, 0⟩, gateway, ⟨255, 255, 0, 0⟩, "wan"⟩
    let router : Router :=
      ⟨⟨[lan, wan], by decide⟩, ⟨[inside, outside], by decide⟩, { maximumAttempts := 1 }⟩
    let frame (arrival : Interface) (source destination : Ipv4Address) : Octets :=
      EthernetFrame.assemble arrival.mac ⟨2, 0, 0, 0, 0, 3⟩ EthernetFrame.ipv4Type
        (Ipv4Header.attach ⟨source, destination, 17, 64, 0, 0⟩ [])
    let environment : Environment := ⟨fun _ _ => none, fun _ => 0⟩
    let events : List (Environment × RouterEvent) := [
      (environment, .arrival "lan" (frame lan peer ⟨10, 2, 3, 4⟩)),
      (environment, .arrival "lan" (frame lan other ⟨10, 2, 3, 4⟩)),
      (environment, .advance 500000000),
      (environment, .arrival "wan" (frame wan ⟨10, 2, 3, 4⟩ other)),
      (environment, .advance 500000000)]
    let outcome := router.step environment (router.run .initial events) .sweep
    let swept := outcome.1.state
    0 < router.settings.retransmitInterval ∧
    outcome.1.sent = [lan.arpRequestFor peer] ∧
    swept.pending.map (fun request => (request.target, request.frames.length)) =
      [(other, 2), (peer, 1)] ∧
    router.step environment swept .sweep = (Turn.start swept, .ok ()) := by
  intro lan wan peer other gateway inside outside router frame environment events outcome swept
  have positive : 0 < router.settings.retransmitInterval := by decide
  refine ⟨positive, by decide +kernel, by decide +kernel, ?_⟩
  exact second_sweep_idle positive events environment environment

end Router

end Ipv4Router
