import Ipv4Router.Proofs.ResolutionInvariant

/-!
# What a sweep leaves behind

A sweep polls the pending requests, which leaves those that have not failed.  The frames
that waited for the others are given up one after the other, and the errors about them are
output at once.  Some of these errors have to wait themselves, behind a request that the
poll has left or behind a new one.

So a request is found after a sweep for one of two reasons.  Either the poll has left it,
and what has joined its queue since then is of the router's own.  Or the poll has left none
for its target, and all that waits for it is of the router's own.
-/

namespace Ipv4Router

/-- Nothing that waits for the request is to be forwarded. -/
def PendingRequest.HoldsOwn (request : PendingRequest) : Prop :=
  ∀ frame ∈ request.frames, frame.origin = .originated

namespace PendingRequests

/-- Pending requests have become others by letting frames of the router's own wait. -/
structure JoinedByOwn (before after : PendingRequests) : Prop where
  kept : ∀ target, after.find? target = none → before.find? target = none
  /-- A request is new and holds frames of the router's own only, or it was there before and
  holds no others beside those it held. -/
  grown : ∀ request ∈ after,
    (before.find? request.target = none ∧ request.HoldsOwn) ∨
      ∃ old ∈ before, old.target = request.target ∧ old.attempts = request.attempts ∧
        (old.HoldsOwn → request.HoldsOwn)

theorem JoinedByOwn.refl (pending : PendingRequests) : JoinedByOwn pending pending where
  kept := fun _ unknown => unknown
  grown := fun request member => Or.inr ⟨request, member, rfl, rfl, id⟩

theorem JoinedByOwn.enqueue {before after : PendingRequests} {frame : DatagramFrame}
    (joined : JoinedByOwn before after) (own : frame.origin = .originated) (now : Nat)
    (target : Ipv4Address) (interface : String) :
    JoinedByOwn before (after.enqueue now target frame interface).2 where
  kept := by
    intro other unknown
    by_cases same : target = other
    · subst same
      rw [find?_enqueue_self] at unknown
      cases unknown
    · rw [find?_enqueue_of_ne same] at unknown
      exact joined.kept other unknown
  grown := by
    have holdsJoined : ∀ request : PendingRequest, request.HoldsOwn →
        (request.join frame).HoldsOwn := by
      intro request holds other member
      rcases List.mem_append.mp member with waiting | new
      · exact holds other waiting
      · rw [List.mem_singleton.mp new]
        exact own
    intro request member
    rcases mem_enqueue member with present | ⟨present, found, rfl⟩ | ⟨unknown, rfl⟩
    · exact joined.grown request present
    · rcases joined.grown present (List.mem_of_find?_eq_some found) with
        ⟨unknown, holds⟩ | ⟨old, member, target, attempts, holds⟩
      · exact Or.inl ⟨unknown, holdsJoined present holds⟩
      · exact Or.inr ⟨old, member, target, attempts,
          fun oldHolds => holdsJoined present (holds oldHolds)⟩
    · refine Or.inl ⟨joined.kept _ unknown, ?_⟩
      intro other member
      rw [List.mem_singleton.mp member]
      exact own

end PendingRequests

namespace Router

variable {router : Router} {environment : Environment} {state : RouterState}

theorem originated_of_originateMessage {identification : UInt16}
    {source destination : Ipv4Address} {message : IcmpMessage} {data : Octets}
    {outbound : Outbound}
    (decided : router.originateMessage identification source destination message data =
      .ok outbound) :
    outbound.frame.origin = .originated := by
  simp only [originateMessage] at decided
  split at decided
  · cases decided
  split at decided
  · cases decided
  obtain ⟨packet, route, egress, -, -, -, rfl⟩ := originateFrame_eq_ok_iff.mp decided
  rfl

/-- Errors are only about forwarded frames, and are themselves of the router's own. -/
theorem origins_of_reportAbandoned {identification : UInt16} {frame : DatagramFrame}
    {outbound : Outbound}
    (decided : router.reportAbandoned identification frame = .ok outbound) :
    frame.origin ≠ .originated ∧ outbound.frame.origin = .originated := by
  unfold reportAbandoned at decided
  split at decided
  · cases decided
  next name forwarded =>
    split at decided
    · cases decided
    split at decided
    · cases decided
    rw [forwarded]
    exact ⟨by simp, originated_of_originateMessage decided⟩

theorem state_retransmit (turn : Turn) (solicitation : Solicitation) :
    (router.retransmit environment turn solicitation).state = turn.state := by
  unfold retransmit solicit
  split
  · rfl
  · rw [Turn.sendArp_eq]
    rfl

theorem state_foldl_retransmit (solicitations : List Solicitation) (turn : Turn) :
    (solicitations.foldl (router.retransmit environment) turn).state = turn.state := by
  induction solicitations generalizing turn with
  | nil => rfl
  | cons solicitation rest ih => exact (ih _).trans (state_retransmit turn solicitation)

/-- When a frame is given up, nothing changes, or an error about it is let wait. -/
theorem state_abandon (target : Ipv4Address) (turn : Turn) (frame : DatagramFrame) :
    (router.abandon environment target turn frame).state = turn.state ∨
      ∃ outbound, frame.origin ≠ .originated ∧ outbound.frame.origin = .originated ∧
        (router.abandon environment target turn frame).state = turn.state.await outbound := by
  unfold abandon submit submitAs
  split
  · exact Or.inl rfl
  next outbound decided =>
    obtain ⟨forwarded, own⟩ := origins_of_reportAbandoned decided
    rw [state_output (delivers_of_reportAbandoned decided)]
    split
    · exact Or.inl rfl
    · exact Or.inr ⟨outbound, forwarded, own, rfl⟩

theorem joinedByOwn_abandon {before : PendingRequests} (inHand : List FrameInHand)
    (turn : Turn) (joined : before.JoinedByOwn turn.state.pending) :
    before.JoinedByOwn (inHand.foldl
      (fun current held => router.abandon environment held.target current held.frame)
      turn).state.pending := by
  induction inHand generalizing turn with
  | nil => exact joined
  | cons held rest ih =>
      apply ih
      rcases state_abandon held.target turn held.frame with same | ⟨outbound, -, own, waits⟩
      · rw [same]
        exact joined
      · rw [waits]
        exact joined.enqueue own _ _ _

theorem state_abandon_of_own (inHand : List FrameInHand) (turn : Turn)
    (own : ∀ held ∈ inHand, held.frame.origin = .originated) :
    (inHand.foldl
      (fun current held => router.abandon environment held.target current held.frame)
      turn).state = turn.state := by
  induction inHand generalizing turn with
  | nil => rfl
  | cons held rest ih =>
      have restOwn : ∀ later ∈ rest, later.frame.origin = .originated :=
        fun later member => own later (List.mem_cons_of_mem _ member)
      refine (ih _ restOwn).trans ?_
      rcases state_abandon held.target turn held.frame with same | ⟨outbound, forwarded, -⟩
      · exact same
      · exact absurd (own held List.mem_cons_self) forwarded

theorem joinedByOwn_sweep (environment : Environment) (state : RouterState) :
    (router.refresh state).pending.JoinedByOwn
      (router.sweep environment (Turn.start state)).state.pending := by
  rw [sweep_eq]
  apply joinedByOwn_abandon
  rw [state_foldl_retransmit]
  exact .refl _

/-- If only frames of the router's own wait, a sweep lets nothing new wait. -/
theorem state_sweep_of_own (environment : Environment)
    (own : ∀ request ∈ state.pending, request.HoldsOwn) :
    (router.sweep environment (Turn.start state)).state = router.refresh state := by
  rw [sweep_eq, state_abandon_of_own, state_foldl_retransmit]
  · rfl
  · intro held member
    obtain ⟨request, failed, heldMember⟩ := List.mem_flatMap.mp member
    obtain ⟨frame, waiting, rfl⟩ := List.mem_map.mp heldMember
    rw [PendingRequests.failed_poll] at failed
    exact own request (List.mem_filter.mp failed).1 frame waiting

end Router

end Ipv4Router
