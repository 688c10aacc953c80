import Ipv4Router.Interfaces
import Ipv4Router.PendingRequests
import Ipv4Router.RoutingTable
import Ipv4Router.Settings

/-!
# Routers

What a router is, apart from what it remembers: its interfaces, its routes and
its settings.  These stay the same while the router runs.
-/

namespace Ipv4Router

/-- The fixed parts of a router. -/
structure Router where
  interfaces : Interfaces
  routes : RoutingTable
  settings : Settings

namespace Router

/-- The router with the given parts.  It is refused if two interfaces have one
name or if a route leads through an interface that it does not have. -/
def build (interfaces : List Interface) (routes : RoutingTable) (settings : Settings) :
    Except ConfigurationError Router :=
  match Interfaces.ofList interfaces with
  | .error fault => .error fault
  | .ok interfaces =>
      match routes.routes.find? (fun route => (interfaces.byName? route.interface).isNone) with
      | some route => .error (.strandedRoute route)
      | none => .ok ⟨interfaces, routes, settings⟩

/-- The schedule by which the router repeats and gives up ARP requests. -/
def schedule (router : Router) : RetransmitSchedule :=
  ⟨router.settings.retransmitInterval, router.settings.maximumAttempts⟩

/-- Whether an address belongs to one of the interfaces. -/
def owns (router : Router) (address : Ipv4Address) : Bool :=
  (router.interfaces.byAddress? address).isSome

end Router

end Ipv4Router
