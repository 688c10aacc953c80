import Ipv4Router.Ipv4Address

/-!
# Static routes

A route leads to a network: all addresses that agree with its destination on the
bits of its mask.  The mask may be any number; its bits need not be contiguous.
Datagrams leave through the interface of the route, towards its gateway or,
where the network is attached to that interface, towards their own destination.
-/

namespace Ipv4Router

structure Route where
  /-- An address of the network; the bits outside the mask are ignored. -/
  destination : Ipv4Address
  /-- The next router, or the unspecified address where the network is attached. -/
  gateway : Ipv4Address
  mask : Ipv4Address
  interface : String
  deriving DecidableEq

namespace Route

/-- The part of the destination that the mask covers. -/
def network (route : Route) : UInt32 :=
  route.destination.toUInt32 &&& route.mask.toUInt32

/-- Whether an address lies in the network of a route. -/
def covers (route : Route) (address : Ipv4Address) : Bool :=
  address.toUInt32 &&& route.mask.toUInt32 == route.network

/-- The address whose hardware address must be known in order to send a datagram
to a destination along a route. -/
def nextHop (route : Route) (destination : Ipv4Address) : Ipv4Address :=
  if route.gateway = Ipv4Address.unspecified then destination else route.gateway

/-- Two routes clash when they lead to the same network under the same mask. -/
def Clashes (left right : Route) : Prop :=
  left.mask = right.mask ∧ left.network = right.network

instance (left right : Route) : Decidable (left.Clashes right) :=
  inferInstanceAs (Decidable (_ ∧ _))

theorem Clashes.symm {left right : Route} (clash : left.Clashes right) :
    right.Clashes left :=
  ⟨clash.1.symm, clash.2.symm⟩

/-- The line of a route file that describes a route. -/
def display (route : Route) : String :=
  " ".intercalate [route.destination.display, route.gateway.display, route.mask.display,
    route.interface]

end Route

end Ipv4Router
