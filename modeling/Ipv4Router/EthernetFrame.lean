import Ipv4Router.MacAddress
import Ipv4Router.PacketError

/-!
# Ethernet frames

A frame is an octet string with a header of fourteen octets: the destination and
the source hardware address and a word that tells the type of the payload.  The
payload is all that follows, padding included.  A frame is no longer than 1518
octets in all.
-/

namespace Ipv4Router

/-- An octet string seen as an Ethernet frame. -/
structure EthernetFrame where
  octets : Octets
  deriving DecidableEq

namespace EthernetFrame

def headerLength : Nat := 14

/-- The greatest length of a frame, header included. -/
def maximumLength : Nat := 1518

def ipv4Type : UInt16 := 0x0800

def arpType : UInt16 := 0x0806

/-- See an octet string as a frame, provided that its length is that of a frame. -/
def ofOctets (octets : Octets) : Except PacketError EthernetFrame :=
  if octets.length < headerLength then .error .tooShort
  else if maximumLength < octets.length then .error .malformed
  else .ok ⟨octets⟩

/-- The octets of the frame with the given header fields and payload. -/
def assemble (destination source : MacAddress) (payloadType : UInt16) (payload : Octets) :
    Octets :=
  destination.toOctets ++ source.toOctets ++ Octets.ofWord payloadType ++ payload

def destination (frame : EthernetFrame) : MacAddress :=
  MacAddress.readAt frame.octets 0

def source (frame : EthernetFrame) : MacAddress :=
  MacAddress.readAt frame.octets 6

def payloadType (frame : EthernetFrame) : UInt16 :=
  frame.octets.wordAt 12

/-- All octets after the header. -/
def payload (frame : EthernetFrame) : Octets :=
  frame.octets.drop headerLength

def setDestination (frame : EthernetFrame) (address : MacAddress) : EthernetFrame :=
  ⟨frame.octets.overwrite 0 address.toOctets⟩

def setSource (frame : EthernetFrame) (address : MacAddress) : EthernetFrame :=
  ⟨frame.octets.overwrite 6 address.toOctets⟩

def setPayloadType (frame : EthernetFrame) (value : UInt16) : EthernetFrame :=
  ⟨frame.octets.setWord 12 value⟩

def mapPayload (change : UInt8 → UInt8) (frame : EthernetFrame) : EthernetFrame :=
  ⟨frame.octets.take headerLength ++ frame.payload.map change⟩

theorem ofOctets_eq_ok_iff {octets : Octets} {frame : EthernetFrame} :
    ofOctets octets = .ok frame ↔
      headerLength ≤ octets.length ∧ octets.length ≤ maximumLength ∧
        frame = ⟨octets⟩ := by
  unfold ofOctets
  split
  · simp; omega
  · split
    · simp; omega
    · simp only [Except.ok.injEq]
      constructor
      · intro equal
        exact ⟨by omega, by omega, equal.symm⟩
      · intro accepted
        exact accepted.2.2.symm

@[simp]
theorem length_assemble (destination source : MacAddress) (payloadType : UInt16)
    (payload : Octets) :
    (assemble destination source payloadType payload).length =
      headerLength + payload.length := by
  simp [assemble, headerLength]
  omega

@[simp]
theorem length_setSource (frame : EthernetFrame) (address : MacAddress) :
    (frame.setSource address).octets.length = frame.octets.length :=
  Octets.length_overwrite frame.octets 6 address.toOctets

end EthernetFrame

end Ipv4Router
