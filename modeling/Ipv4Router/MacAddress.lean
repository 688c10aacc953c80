import Ipv4Router.AddressError
import Ipv4Router.OctetNumeral

/-!
# Hardware addresses

An Ethernet interface has a hardware address of six octets.  Its text form is
six hexadecimal numerals between colons; it is written with two capital digits
each and read with either case.
-/

namespace Ipv4Router

/-- The hardware address of an Ethernet interface, in the order of transmission. -/
structure MacAddress where
  first : UInt8
  second : UInt8
  third : UInt8
  fourth : UInt8
  fifth : UInt8
  sixth : UInt8
  deriving DecidableEq

namespace MacAddress

/-- The address that every interface on a segment accepts. -/
def broadcast : MacAddress :=
  ⟨255, 255, 255, 255, 255, 255⟩

/-- The address that stands for none. -/
def unspecified : MacAddress :=
  ⟨0, 0, 0, 0, 0, 0⟩

def toOctets (address : MacAddress) : Octets :=
  [address.first, address.second, address.third, address.fourth, address.fifth,
    address.sixth]

/-- The address with the given octets, of which there must be six. -/
def ofOctets : Octets → Except AddressError MacAddress
  | [first, second, third, fourth, fifth, sixth] =>
      .ok ⟨first, second, third, fourth, fifth, sixth⟩
  | _ => .error .wrongLength

def readAt (octets : Octets) (offset : Nat) : MacAddress where
  first := octets.octetAt offset
  second := octets.octetAt (offset + 1)
  third := octets.octetAt (offset + 2)
  fourth := octets.octetAt (offset + 3)
  fifth := octets.octetAt (offset + 4)
  sixth := octets.octetAt (offset + 5)

def parse (text : String) : Except AddressError MacAddress :=
  match readOctets? ':' 16 text with
  | some [first, second, third, fourth, fifth, sixth] =>
      .ok ⟨first, second, third, fourth, fifth, sixth⟩
  | _ => .error .unreadable

def display (address : MacAddress) : String :=
  writeOctets ':' hexadecimalNumeral address.toOctets

@[simp]
theorem length_toOctets (address : MacAddress) : address.toOctets.length = 6 :=
  rfl

end MacAddress

end Ipv4Router
