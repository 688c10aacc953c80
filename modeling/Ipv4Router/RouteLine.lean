import Ipv4Router.ConfigurationError
import Ipv4Router.WhiteSpace

/-!
# Reading a route from a line of text

A line describes a route by four fields between white space: destination,
gateway, mask and interface.  Further fields are ignored.  Of several faults in
a line the first is reported.
-/

namespace Ipv4Router

namespace Route

def parseAddress (field : List Char) : Except ConfigurationError Ipv4Address :=
  match Ipv4Address.parse (String.ofList field) with
  | .ok address => .ok address
  | .error _ => .error (.invalidAddress (String.ofList field))

def parse (line : String) : Except ConfigurationError Route :=
  match whiteSpaceFields line.toList with
  | destination :: gateway :: mask :: interface :: _ => do
      return {
        destination := ← parseAddress destination
        gateway := ← parseAddress gateway
        mask := ← parseAddress mask
        interface := String.ofList interface }
  | _ => .error (.incompleteRoute line)

end Route

end Ipv4Router
