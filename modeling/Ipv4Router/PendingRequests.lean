import Ipv4Router.Ipv4Address
import Ipv4Router.OctetString

/-!
# Pending ARP requests

A frame whose next hop has no known hardware address waits behind an ARP request
for that address.  There is at most one request for an address; later frames
join its queue.  A request that stays unanswered is repeated at intervals, and
given up once it was sent as often as allowed.

A poll visits the requests one after the other.  Each meets one of three fates,
which depends on nothing but itself and the time: it waits, it is sent again, or
it has failed and leaves the list.
-/

namespace Ipv4Router

/-- How a datagram came to the router, which decides how its frame is completed. -/
inductive FrameOrigin
  /-- The datagram arrived on the named interface and is being forwarded. -/
  | forwarded (arrival : String)
  | originated
  deriving DecidableEq

/-- An Ethernet frame with a datagram that is to leave the router.  A forwarded
frame is kept as it arrived. -/
structure DatagramFrame where
  octets : Octets
  origin : FrameOrigin
  deriving DecidableEq

structure Solicitation where
  target : Ipv4Address
  /-- The name of the interface to send the request out of. -/
  interface : String
  deriving DecidableEq

/-- An ARP request without an answer so far. -/
structure PendingRequest where
  target : Ipv4Address
  interface : String
  /-- The frames that wait for the answer, oldest first. -/
  frames : List DatagramFrame
  attempts : UInt32
  lastSent : Nat
  deriving DecidableEq

/-- When requests are repeated and given up. -/
structure RetransmitSchedule where
  /-- The least time between two transmissions of a request. -/
  interval : Nat
  maximumAttempts : UInt32
  deriving DecidableEq

namespace PendingRequest

def solicitation (request : PendingRequest) : Solicitation :=
  ⟨request.target, request.interface⟩

/-- Whether a poll has to act on a request. -/
def isDue (schedule : RetransmitSchedule) (now : Nat) (request : PendingRequest) : Bool :=
  schedule.interval ≤ now - request.lastSent

def isExhausted (schedule : RetransmitSchedule) (request : PendingRequest) : Bool :=
  schedule.maximumAttempts ≤ request.attempts

def resent (now : Nat) (request : PendingRequest) : PendingRequest :=
  { request with attempts := request.attempts + 1, lastSent := now }

end PendingRequest

/-- The ARP requests without an answer, in the order in which they were made. -/
abbrev PendingRequests := List PendingRequest

/-- What a poll does with the pending requests. -/
structure PollOutcome where
  retransmit : List Solicitation
  /-- The requests that were given up, as they were. -/
  failed : List PendingRequest
  remaining : PendingRequests
  deriving DecidableEq

namespace PendingRequests

def find? (pending : PendingRequests) (target : Ipv4Address) : Option PendingRequest :=
  List.find? (fun request => request.target = target) pending

/-- Let a frame wait for the hardware address of a target.  If no request for the
target is pending, a new one is made, and the solicitation that sends it is
returned; this is its first attempt. -/
def enqueue (now : Nat) (target : Ipv4Address) (frame : DatagramFrame) (interface : String) :
    PendingRequests → Option Solicitation × PendingRequests
  | [] =>
      let request : PendingRequest := ⟨target, interface, [frame], 1, now⟩
      (some request.solicitation, [request])
  | request :: rest =>
      if request.target = target then
        (none, { request with frames := request.frames ++ [frame] } :: rest)
      else
        let (solicitation, extended) := enqueue now target frame interface rest
        (solicitation, request :: extended)

/-- Take the request for an address out of the list. -/
def resolve (pending : PendingRequests) (target : Ipv4Address) :
    Option PendingRequest × PendingRequests :=
  (pending.find? target, pending.eraseP (fun request => request.target = target))

/-- Visit the requests in order: those that are due are sent again or, if they
may not be, given up. -/
def poll (schedule : RetransmitSchedule) (now : Nat) : PendingRequests → PollOutcome
  | [] => ⟨[], [], []⟩
  | request :: rest =>
      let later := poll schedule now rest
      if request.isDue schedule now then
        if request.isExhausted schedule then
          { later with failed := request :: later.failed }
        else
          { later with
            retransmit := request.solicitation :: later.retransmit
            remaining := request.resent now :: later.remaining }
      else
        { later with remaining := request :: later.remaining }

end PendingRequests

end Ipv4Router
