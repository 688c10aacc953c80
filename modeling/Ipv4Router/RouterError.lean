import Ipv4Router.ConfigurationError
import Ipv4Router.PacketError

/-!
# Reasons to drop a frame

When a router drops a frame, or fails to send one, it says why.  None of the
reasons keeps it from handling the next frame.
-/

namespace Ipv4Router

/-- Why the link did not take a frame. -/
inductive LinkFailure
  /-- The link gives a reason in words. -/
  | reported (reason : String)
  /-- Input or output failed, in the named way. -/
  | inputOutput (kind : String)
  deriving DecidableEq

/-- Why a router drops a frame or does not send one. -/
inductive RouterError
  /-- A frame, or a packet in it, cannot be read or written. -/
  | packet (fault : PacketError)
  | ignored
  /-- No route leads to the destination of a datagram of the router's own. -/
  | noRoute (destination : Ipv4Address)
  /-- The configuration names an interface that does not exist. -/
  | configuration (fault : ConfigurationError)
  | link (failure : LinkFailure)
  deriving DecidableEq

end Ipv4Router
