import Ipv4Router.EthernetFrame
import Ipv4Router.IcmpPacket
import Ipv4Router.Ipv4Packet
import Ipv4Router.Router
import Ipv4Router.RouterError

/-!
# Where datagrams go

This file decides what becomes of a datagram: whether it is forwarded, answered,
refused with an ICMP error or dropped, and through which interface and to which
next hop the resulting datagram leaves.  Hardware addresses play no part in the
decision.  It depends on the fixed parts of the router, the datagram and the
identification that a datagram of the router's own would bear, and on nothing
that the router remembers.

Once the hardware address of the next hop is known, the frame is completed: a
forwarded datagram loses its padding and one unit of its time to live, a
datagram of the router's own only gets its hardware addresses.
-/

namespace Ipv4Router

/-- A datagram that is to leave the router: the interface it leaves through, the
next hop on its way and the frame that holds it. -/
structure Outbound where
  egress : Interface
  nextHop : Ipv4Address
  frame : DatagramFrame
  deriving DecidableEq

namespace Outbound

/-- The frame of a datagram as it is sent to the hardware address of its next
hop. -/
def complete (outbound : Outbound) (mac : MacAddress) : Octets :=
  let ethernet : EthernetFrame := ⟨outbound.frame.octets⟩
  match outbound.frame.origin with
  | .originated => (ethernet.setSource outbound.egress.mac |>.setDestination mac).octets
  | .forwarded _ =>
      let packet : Ipv4Packet := ⟨(Ipv4Packet.mk ethernet.payload).datagram⟩
      let onward := (packet.setTimeToLive (packet.timeToLive - 1)).fillChecksum
      EthernetFrame.assemble mac outbound.egress.mac ethernet.payloadType onward.octets

end Outbound

/-- The IPv4 packet that an Ethernet frame carries. -/
def Ipv4Packet.ofFrame (octets : Octets) : Except PacketError Ipv4Packet :=
  match EthernetFrame.ofOctets octets with
  | .error fault => .error fault
  | .ok frame => Ipv4Packet.ofOctets frame.payload

namespace Router

/-- Send a frame along a route. -/
def sendAlong (router : Router) (route : Route) (destination : Ipv4Address)
    (frame : DatagramFrame) : Except RouterError Outbound :=
  match router.interfaces.byName? route.interface with
  | none => .error (.configuration (.unknownEgress route.interface))
  | some egress => .ok ⟨egress, route.nextHop destination, frame⟩

/-- Send a frame of the router's own to the destination of the datagram in it. -/
def originateFrame (router : Router) (octets : Octets) : Except RouterError Outbound :=
  match Ipv4Packet.ofFrame octets with
  | .error fault => .error (.packet fault)
  | .ok packet =>
      match router.routes.lookup packet.destination with
      | none => .error (.noRoute packet.destination)
      | some route => router.sendAlong route packet.destination ⟨octets, .originated⟩

/-- Send a datagram of the router's own to its destination.  The hardware
addresses of its frame stay open. -/
def originateDatagram (router : Router) (datagram : Octets) : Except RouterError Outbound :=
  router.originateFrame (EthernetFrame.assemble MacAddress.unspecified MacAddress.unspecified
    EthernetFrame.ipv4Type datagram)

/-- Send an ICMP message with some data.  The length of the ICMP packet is kept
in sixteen bits; data that exceeds the length kept there is cut off. -/
def originateMessage (router : Router) (identification : UInt16)
    (source destination : Ipv4Address) (message : IcmpMessage) (data : Octets) :
    Except RouterError Outbound :=
  let payloadLength := (IcmpPacket.headerLength + data.length) % 65536
  if 65535 < Ipv4Packet.minimumHeaderLength + payloadLength then .error (.packet .malformed)
  else if payloadLength < IcmpPacket.headerLength then .error (.packet .tooShort)
  else
    let packet :=
      IcmpPacket.ofMessage message (data.take (payloadLength - IcmpPacket.headerLength))
    let header : Ipv4Header := {
      source, destination
      protocol := Ipv4Header.icmpProtocol
      timeToLive := router.settings.icmpTimeToLive
      identification, payloadLength }
    router.originateDatagram (header.attach packet.octets)

/-- The number of octets of payload that an ICMP error quotes after the header of
the datagram that it is about. -/
def quotedPayloadLength : Nat := 8

/-- Send an ICMP error about a datagram back to its source, from the address of
the interface it arrived on. -/
def reportError (router : Router) (identification : UInt16) (arrival : Interface)
    (packet : Ipv4Packet) (message : IcmpMessage) : Except RouterError Outbound :=
  router.originateMessage identification arrival.address packet.source message
    (packet.header ++ packet.payload.take quotedPayloadLength)

/-- Answer a datagram for one of the router's own addresses.  Echo requests get
their reply; other ICMP messages and other protocols are refused. -/
def answer (router : Router) (identification : UInt16) (arrival : Interface)
    (packet : Ipv4Packet) : Except RouterError Outbound :=
  if packet.protocol ≠ Ipv4Header.icmpProtocol then
    router.reportError identification arrival packet .portUnreachable
  else
    match IcmpPacket.ofOctets packet.payload with
    | .error fault => .error (.packet fault)
    | .ok icmp =>
        match icmp.verifyChecksum with
        | .error fault => .error (.packet fault)
        | .ok () =>
            if icmp.typeCode ≠ IcmpMessage.echoRequestType then
              router.reportError identification arrival packet .hostUnreachable
            else
              router.originateMessage identification packet.destination packet.source
                (.echoReply icmp.identifier icmp.sequenceNumber) icmp.data

/-- Decide what becomes of the datagram in a frame that arrived on an interface. -/
def dispatch (router : Router) (identification : UInt16) (arrival : Interface)
    (octets : Octets) : Except RouterError Outbound :=
  match Ipv4Packet.ofFrame octets with
  | .error fault => .error (.packet fault)
  | .ok packet =>
      match packet.verifyChecksum with
      | .error fault => .error (.packet fault)
      | .ok () =>
          if router.owns packet.destination then
            router.answer identification arrival packet
          else if packet.timeToLive ≤ 1 then
            router.reportError identification arrival packet .timeExceeded
          else
            match router.routes.lookup packet.destination with
            | none => router.reportError identification arrival packet .netUnreachable
            | some route =>
                router.sendAlong route packet.destination ⟨octets, .forwarded arrival.name⟩

/-- Decide anew about a frame that waited for its next hop. -/
def dispatchAgain (router : Router) (identification : UInt16) (frame : DatagramFrame) :
    Except RouterError Outbound :=
  match frame.origin with
  | .originated => router.originateFrame frame.octets
  | .forwarded name =>
      match router.interfaces.byName? name with
      | none => .error (.configuration (.unknownInterface name))
      | some arrival => router.dispatch identification arrival frame.octets

/-- Tell the source of a frame that waited in vain that its host is unreachable.
Nobody is told about frames of the router's own. -/
def reportAbandoned (router : Router) (identification : UInt16) (frame : DatagramFrame) :
    Except RouterError Outbound :=
  match frame.origin with
  | .originated => .error .ignored
  | .forwarded name =>
      match router.interfaces.byName? name with
      | none => .error .ignored
      | some arrival =>
          match Ipv4Packet.ofFrame frame.octets with
          | .error fault => .error (.packet fault)
          | .ok packet => router.reportError identification arrival packet .hostUnreachable

end Router

end Ipv4Router
