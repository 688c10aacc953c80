import Ipv4Router.ArpPacket
import Ipv4Router.NeighborCache
import Ipv4Router.Outbound

/-!
# Sending

A router handles one event at a time.  While it does, it looks up and changes
what it remembers and hands frames to the link.  A turn is what it remembers at
some moment of this work, together with a journal of what it has done so far.

What lies outside the router is given by an environment: whether the link takes
a frame, and which identification the next datagram of the router's own bears.
The environment is asked anew each time, and what it answers may depend on the
number of entries the journal has by then.

A frame that the link refuses is lost.  The refusal is reported, but changes
nothing that the router remembers.
-/

namespace Ipv4Router

/-- What a router remembers between events. -/
structure RouterState where
  /-- The time, in nanoseconds since some fixed moment. -/
  now : Nat
  neighbors : NeighborCache
  pending : PendingRequests
  deriving DecidableEq

/-- The state of a router that has seen nothing yet. -/
def RouterState.initial : RouterState :=
  ⟨0, NeighborCache.empty 0, []⟩

/-- A frame and the name of the interface it is sent out of. -/
structure Transmission where
  interface : String
  frame : Octets
  deriving DecidableEq

/-- What lies outside a router. -/
structure Environment where
  /-- Why the link does not take a frame, if it does not. -/
  link : Nat → Transmission → Option LinkFailure
  /-- The identification of a datagram of the router's own. -/
  identification : Nat → UInt16

/-- Something a router has done. -/
inductive JournalEntry
  /-- A datagram was accepted for its next hop, to be sent or to wait. -/
  | accepted (outbound : Outbound)
  /-- A frame that waited has come round again, now as the given datagram. -/
  | resumed (frame : DatagramFrame) (outbound : Outbound)
  /-- A frame was handed to the link, which refused it for the given reason, if
  any.  If the frame holds a datagram, the entry tells which. -/
  | handed (transmission : Transmission) (refusal : Option LinkFailure)
      (datagram : Option Outbound)
  /-- A frame that waited for a target was given up. -/
  | abandoned (target : Ipv4Address) (frame : DatagramFrame)
  deriving DecidableEq

namespace JournalEntry

def taken? : JournalEntry → Option Transmission
  | handed transmission none _ => some transmission
  | _ => none

end JournalEntry

/-- What a router remembers in the midst of an event, and what it has done about
the event so far. -/
structure Turn where
  state : RouterState
  journal : List JournalEntry
  deriving DecidableEq

namespace Turn

def start (state : RouterState) : Turn :=
  ⟨state, []⟩

def record (turn : Turn) (entry : JournalEntry) : Turn :=
  { turn with journal := turn.journal ++ [entry] }

/-- The frames that the link took, in order. -/
def sent (turn : Turn) : List Transmission :=
  turn.journal.filterMap JournalEntry.taken?

def transmit (environment : Environment) (turn : Turn) (transmission : Transmission)
    (datagram : Option Outbound) : Turn × Except RouterError Unit :=
  let refusal := environment.link turn.journal.length transmission
  (turn.record (.handed transmission refusal datagram),
    match refusal with
    | none => .ok ()
    | some failure => .error (.link failure))

/-- Send a payload out of an interface. -/
def sendPayload (environment : Environment) (turn : Turn) (interface : Interface)
    (destination : MacAddress) (payloadType : UInt16) (payload : Octets) :
    Turn × Except RouterError Unit :=
  match EthernetFrame.ofOctets
      (EthernetFrame.assemble destination interface.mac payloadType payload) with
  | .error fault => (turn, .error (.packet fault))
  | .ok frame => turn.transmit environment ⟨interface.name, frame.octets⟩ none

/-- Send a payload out of an interface in a frame with a given room for it.  What
the payload leaves of the room is filled with zeros. -/
def sendPadded (environment : Environment) (turn : Turn) (interface : Interface)
    (destination : MacAddress) (payloadType : UInt16) (room : Nat) (payload : Octets) :
    Turn × Except RouterError Unit :=
  if EthernetFrame.maximumLength < EthernetFrame.headerLength + room then
    (turn, .error (.packet .malformed))
  else if room < payload.length then
    (turn, .error (.packet .tooShort))
  else
    turn.sendPayload environment interface destination payloadType
      (payload ++ List.replicate (room - payload.length) 0)

def sendArp (environment : Environment) (turn : Turn) (interface : Interface)
    (destination : MacAddress) (packet : ArpPacket) : Turn × Except RouterError Unit :=
  turn.sendPayload environment interface destination EthernetFrame.arpType packet.toOctets

end Turn

namespace Router

/-- The ARP request by which an interface asks for the hardware address of a
target. -/
def arpRequest (interface : Interface) (target : Ipv4Address) : ArpPacket where
  operation := .request
  sourceMac := interface.mac
  sourceAddress := interface.address
  targetMac := MacAddress.unspecified
  targetAddress := target

/-- Broadcast the ARP request of a solicitation. -/
def solicit (router : Router) (environment : Environment) (turn : Turn)
    (solicitation : Solicitation) : Turn × Except RouterError Unit :=
  match router.interfaces.byName? solicitation.interface with
  | none => (turn, .error (.configuration (.unknownInterface solicitation.interface)))
  | some interface =>
      turn.sendArp environment interface MacAddress.broadcast
        (arpRequest interface solicitation.target)

/-- Output a datagram: send it if the hardware address of its next hop is known,
and otherwise let it wait.  If it is the first to wait, an ARP request is sent. -/
def output (router : Router) (environment : Environment) (turn : Turn)
    (outbound : Outbound) : Turn × Except RouterError Unit :=
  let state := turn.state
  match state.neighbors.lookup router.settings.cacheLifetime state.now outbound.nextHop with
  | some mac =>
      turn.transmit environment ⟨outbound.egress.name, outbound.complete mac⟩ (some outbound)
  | none =>
      let (solicitation, pending) := state.pending.enqueue state.now outbound.nextHop
        outbound.frame outbound.egress.name
      let waiting := { turn with state := { state with pending } }
      match solicitation with
      | none => (waiting, .ok ())
      | some solicitation => router.solicit environment waiting solicitation

/-- Decide about a datagram, note in the journal what results and output it. -/
def submitAs (router : Router) (environment : Environment) (turn : Turn)
    (note : Outbound → JournalEntry) (decide : UInt16 → Except RouterError Outbound) :
    Turn × Except RouterError Unit :=
  match decide (environment.identification turn.journal.length) with
  | .error error => (turn, .error error)
  | .ok outbound => router.output environment (turn.record (note outbound)) outbound

/-- Decide about a datagram that the router has not handled before and output what
results. -/
def submit (router : Router) (environment : Environment) (turn : Turn)
    (decide : UInt16 → Except RouterError Outbound) : Turn × Except RouterError Unit :=
  router.submitAs environment turn .accepted decide

end Router

end Ipv4Router
