import Ipv4Router.RouterTurn

/-!
# Receiving

A frame is received if it is addressed to the interface it arrives on, or to
all.  ARP requests for an address of the router are answered.  ARP replies are
remembered and release the frames that waited for them, in order; each of these
is decided about anew, as if it came just now.  Datagrams are forwarded,
answered or refused.
-/

namespace Ipv4Router

namespace Router

/-- Output a frame that waited, now that its turn has come.  What goes wrong with
it concerns nobody. -/
def release (router : Router) (environment : Environment) (turn : Turn)
    (frame : DatagramFrame) : Turn :=
  (router.submitAs environment turn (.resumed frame)
    (fun identification => router.dispatchAgain identification frame)).1

/-- Remember a hardware address and release the frames that waited for it. -/
def learn (router : Router) (environment : Environment) (turn : Turn)
    (address : Ipv4Address) (mac : MacAddress) : Turn :=
  let state := turn.state
  let (request, pending) := state.pending.resolve address
  let informed : Turn := { turn with
    state := { state with neighbors := state.neighbors.insert state.now address mac, pending } }
  match request with
  | none => informed
  | some request => request.frames.foldl (router.release environment) informed

/-- The reply to an ARP request for an address of the router. -/
def arpReply (arrival : Interface) (request : ArpPacket) : ArpPacket where
  operation := .reply
  sourceMac := arrival.mac
  sourceAddress := request.targetAddress
  targetMac := request.sourceMac
  targetAddress := request.sourceAddress

def receiveArp (router : Router) (environment : Environment) (turn : Turn)
    (arrival : Interface) (payload : Octets) : Turn × Except RouterError Unit :=
  match ArpPacket.ofOctets payload with
  | .error fault => (turn, .error (.packet fault))
  | .ok packet =>
      match packet.operation with
      | .request =>
          if router.owns packet.targetAddress then
            turn.sendArp environment arrival packet.sourceMac (arpReply arrival packet)
          else
            (turn, .error .ignored)
      | .reply =>
          (router.learn environment turn packet.sourceAddress packet.sourceMac, .ok ())

def receiveDatagram (router : Router) (environment : Environment) (turn : Turn)
    (arrival : Interface) (octets : Octets) : Turn × Except RouterError Unit :=
  router.submit environment turn
    (fun identification => router.dispatch identification arrival octets)

/-- Receive a frame on the interface of a name. -/
def receive (router : Router) (environment : Environment) (turn : Turn)
    (name : String) (octets : Octets) : Turn × Except RouterError Unit :=
  match router.interfaces.byName? name with
  | none => (turn, .error .ignored)
  | some arrival =>
      match EthernetFrame.ofOctets octets with
      | .error fault => (turn, .error (.packet fault))
      | .ok frame =>
          if frame.destination ≠ arrival.mac ∧ frame.destination ≠ MacAddress.broadcast then
            (turn, .error .ignored)
          else if frame.payloadType = EthernetFrame.arpType then
            router.receiveArp environment turn arrival frame.payload
          else if frame.payloadType = EthernetFrame.ipv4Type then
            router.receiveDatagram environment turn arrival octets
          else
            (turn, .error .ignored)

end Router

end Ipv4Router
