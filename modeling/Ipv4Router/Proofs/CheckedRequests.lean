import Ipv4Router.NeighborCache
import Ipv4Router.Proofs.CheckedOctets
import Ipv4Router.Proofs.PendingQueues

/-!
# Checked requests

The pending requests in checked operations.  A machine keeps them in an array.  To
resolve an address it looks for the index of the request and removes what is there.
To poll, it walks through the array with an index, which it advances past a request
that stays, but not past one that it removes.
-/

namespace Ipv4Router

open Checked

namespace PendingRequests

def checkedAt (pending : PendingRequests) (index : Nat) : Checked PendingRequest :=
  match pending[index]? with
  | some request => .ok request
  | none => .error .outOfRange

/-- Take the request at an index out of the list. -/
def checkedRemove (pending : PendingRequests) (index : Nat) :
    Checked (PendingRequest × PendingRequests) := do
  return (← checkedAt pending index, pending.eraseIdx index)

def checkedResolve (pending : PendingRequests) (target : Ipv4Address) :
    Checked (Option PendingRequest × PendingRequests) :=
  match pending.findIdx? (fun request => request.target = target) with
  | none => return (none, pending)
  | some index => do
      let (request, rest) ← checkedRemove pending index
      return (some request, rest)

/-- Visit the requests from an index on.  The outcome so far holds the array itself. -/
def checkedPollFrom (schedule : RetransmitSchedule) (now : Nat) (outcome : PollOutcome)
    (index : Nat) : Checked PollOutcome :=
  if inside : index < outcome.remaining.length then do
    let request ← checkedAt outcome.remaining index
    if !request.isDue schedule now then
      checkedPollFrom schedule now outcome (index + 1)
    else if request.isExhausted schedule then
      let failed := outcome.failed ++ [request]
      checkedPollFrom schedule now
        { outcome with failed, remaining := outcome.remaining.eraseIdx index } index
    else
      let attempts ← checkedAdd request.attempts 1
      let resent := { request with attempts, lastSent := now }
      let retransmit := outcome.retransmit ++ [request.solicitation]
      checkedPollFrom schedule now
        { outcome with retransmit, remaining := outcome.remaining.set index resent }
        (index + 1)
  else return outcome
termination_by outcome.remaining.length - index
decreasing_by
  · omega
  · rw [List.length_eraseIdx_of_lt inside]
    omega
  · rw [List.length_set]
    omega

def checkedPoll (schedule : RetransmitSchedule) (now : Nat) (pending : PendingRequests) :
    Checked PollOutcome :=
  checkedPollFrom schedule now ⟨[], [], pending⟩ 0

theorem checkedAt_length (done : List PendingRequest) (request : PendingRequest)
    (rest : List PendingRequest) :
    checkedAt (done ++ request :: rest) done.length = .ok request := by
  have found : (done ++ request :: rest)[done.length]? = some request := by simp
  rw [checkedAt, found]

theorem checkedResolve_eq (pending : PendingRequests) (target : Ipv4Address) :
    pending.checkedResolve target = .ok (pending.resolve target) := by
  cases located : pending.findIdx? (fun request => request.target = target) with
  | none =>
      have absent : pending.find? target = none :=
        List.find?_eq_none.mpr (by simpa using located)
      simp only [checkedResolve, resolve, located, absent, List.eraseP_eq_eraseIdx]
      rfl
  | some index =>
      obtain ⟨inside, isTarget, first⟩ := List.findIdx?_eq_some_iff_getElem.mp located
      have found : pending.find? target = some pending[index] :=
        List.find?_eq_some_iff_getElem.mpr
          ⟨isTarget, index, inside, rfl, fun earlier before => by simpa using first earlier before⟩
      have present : checkedAt pending index = .ok pending[index] := by
        rw [checkedAt, List.getElem?_eq_getElem inside]
      simp only [checkedResolve, checkedRemove, resolve, located, found, present,
        List.eraseP_eq_eraseIdx, ok_bind, pure_eq_ok]

/-- The attempts of a request that may be sent again are fewer than a number that fits
the register. -/
theorem checkedAdd_attempts {schedule : RetransmitSchedule} {request : PendingRequest}
    (spare : request.isExhausted schedule = false) :
    checkedAdd request.attempts 1 = .ok (request.attempts + 1) := by
  have below := PendingRequest.attempts_lt_of_not_exhausted spare
  have bound := schedule.maximumAttempts.toNat_lt
  have fits : request.attempts.toNat + (1 : UInt32).toNat < UInt32.size := by
    simp only [UInt32.toNat_one, UInt32.size]
    omega
  exact (checkedAdd_eq fits).1

end PendingRequests

/-- Remove the outdated entries and count them, by the difference of two lengths. -/
def NeighborCache.checkedExpire (lifetime now : Nat) (cache : NeighborCache) :
    Checked (Nat × NeighborCache) :=
  if now ≤ cache.oldest + lifetime then return (0, cache)
  else do
    let live := cache.entries.filter (NeighborEntry.isLive lifetime now)
    let removed ← checkedSub cache.entries.length live.length
    return (removed, ⟨live, (live.map NeighborEntry.since).min?.getD now⟩)

theorem NeighborCache.checkedExpire_eq (lifetime now : Nat) (cache : NeighborCache) :
    cache.checkedExpire lifetime now = .ok (cache.expire lifetime now) := by
  unfold checkedExpire expire
  split
  · rfl
  · simp only
    rw [checkedSub, provided_eq (List.length_filter_le _ _)]
    rfl

end Ipv4Router
