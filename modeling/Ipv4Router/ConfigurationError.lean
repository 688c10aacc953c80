import Ipv4Router.Route

/-!
# Faults of a configuration

Interfaces and routes come from a configuration that may contradict itself.
This file lists the faults that are looked for and the sentence that reports
each of them.
-/

namespace Ipv4Router

/-- A fault of the interfaces or routes of a configuration. -/
inductive ConfigurationError
  /-- A line of a route file has fewer than four fields. -/
  | incompleteRoute (line : String)
  /-- A field that should be an IPv4 address is not one. -/
  | invalidAddress (field : String)
  /-- A line of a route file, counted from one, has a fault of its own. -/
  | onLine (number : Nat) (fault : ConfigurationError)
  | duplicateRoute (route : Route)
  | duplicateInterface (name : String)
  /-- A route of a new router leads through an interface that it does not have. -/
  | strandedRoute (route : Route)
  /-- The route chosen for a datagram leads through an unknown interface. -/
  | unknownEgress (name : String)
  | unknownInterface (name : String)
  deriving DecidableEq

namespace ConfigurationError

def message : ConfigurationError → String
  | incompleteRoute line =>
      "expected destination gateway mask interface, got '" ++ line ++ "'"
  | invalidAddress field => "cannot convert " ++ field ++ " to valid IP"
  | onLine number fault => "line " ++ toString number ++ ": " ++ fault.message
  | duplicateRoute route => "duplicate route " ++ route.display
  | duplicateInterface name => "duplicate interface " ++ name
  | strandedRoute route =>
      "route " ++ route.display ++ " uses unknown interface " ++ route.interface
  | unknownEgress name => "route uses unknown interface " ++ name
  | unknownInterface name => "unknown interface " ++ name

end ConfigurationError

end Ipv4Router
