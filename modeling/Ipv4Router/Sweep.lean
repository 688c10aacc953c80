import Ipv4Router.RouterTurn

/-!
# Sweeping

From time to time a router sweeps what it remembers.  It removes the outdated
neighbours, sends ARP requests again that stayed unanswered, and gives up those
that were sent often enough.  The sources of forwarded frames that waited behind
a request given up are told that their host is unreachable.

All requests are sent again before the first frame is given up, and no fault
with one frame keeps the sweep from the next.
-/

namespace Ipv4Router

namespace Router

/-- Send an ARP request again.  What goes wrong with it concerns nobody. -/
def retransmit (router : Router) (environment : Environment) (turn : Turn)
    (solicitation : Solicitation) : Turn :=
  (router.solicit environment turn solicitation).1

def abandon (router : Router) (environment : Environment) (target : Ipv4Address)
    (turn : Turn) (frame : DatagramFrame) : Turn :=
  (router.submit environment (turn.record (.abandoned target frame))
    (fun identification => router.reportAbandoned identification frame)).1

/-- Give up the frames that waited behind a request. -/
def failRequest (router : Router) (environment : Environment) (turn : Turn)
    (request : PendingRequest) : Turn :=
  request.frames.foldl (router.abandon environment request.target) turn

/-- Remove outdated neighbours, then send unanswered requests again or give them
up. -/
def sweep (router : Router) (environment : Environment) (turn : Turn) : Turn :=
  let state := turn.state
  let (_, neighbors) := state.neighbors.expire router.settings.cacheLifetime state.now
  let polled := state.pending.poll router.schedule state.now
  let swept : Turn := { turn with
    state := { state with neighbors, pending := polled.remaining } }
  let resent := polled.retransmit.foldl (router.retransmit environment) swept
  polled.failed.foldl (router.failRequest environment) resent

end Router

end Ipv4Router
