import Ipv4Router.AddressError
import Ipv4Router.OctetNumeral

/-!
# IPv4 addresses

An IPv4 address is four octets.  Its text form is four decimal numerals between
points.  Seen as a number of 32 bits, with the first octet on top, it can be
masked and ordered.  The passage to numbers loses nothing in either direction.
-/

namespace Ipv4Router

/-- An IPv4 address, in the order of transmission. -/
structure Ipv4Address where
  first : UInt8
  second : UInt8
  third : UInt8
  fourth : UInt8
  deriving DecidableEq

namespace Ipv4Address

/-- The address that stands for none. -/
def unspecified : Ipv4Address :=
  ⟨0, 0, 0, 0⟩

def toOctets (address : Ipv4Address) : Octets :=
  [address.first, address.second, address.third, address.fourth]

/-- The address with the given octets, of which there must be four. -/
def ofOctets : Octets → Except AddressError Ipv4Address
  | [first, second, third, fourth] => .ok ⟨first, second, third, fourth⟩
  | _ => .error .wrongLength

def readAt (octets : Octets) (offset : Nat) : Ipv4Address where
  first := octets.octetAt offset
  second := octets.octetAt (offset + 1)
  third := octets.octetAt (offset + 2)
  fourth := octets.octetAt (offset + 3)

def parse (text : String) : Except AddressError Ipv4Address :=
  match readOctets? '.' 10 text with
  | some [first, second, third, fourth] => .ok ⟨first, second, third, fourth⟩
  | _ => .error .unreadable

def display (address : Ipv4Address) : String :=
  writeOctets '.' decimalNumeral address.toOctets

/-- The number whose base-256 digits are the octets of an address. -/
def toUInt32 (address : Ipv4Address) : UInt32 :=
  ((address.first.toUInt32 * 256 + address.second.toUInt32) * 256 +
    address.third.toUInt32) * 256 + address.fourth.toUInt32

/-- The address whose octets are the base-256 digits of a number. -/
def ofUInt32 (number : UInt32) : Ipv4Address where
  first := (number / 16777216).toUInt8
  second := (number / 65536).toUInt8
  third := (number / 256).toUInt8
  fourth := number.toUInt8

/-- Addresses are ordered as their numbers, hence octet by octet from the first. -/
instance : Ord Ipv4Address where
  compare left right := compare left.toUInt32 right.toUInt32

@[simp]
theorem length_toOctets (address : Ipv4Address) : address.toOctets.length = 4 :=
  rfl

theorem toNat_toUInt32 (address : Ipv4Address) :
    address.toUInt32.toNat =
      ((address.first.toNat * 256 + address.second.toNat) * 256 +
        address.third.toNat) * 256 + address.fourth.toNat := by
  have firstBound := address.first.toNat_lt
  have secondBound := address.second.toNat_lt
  have thirdBound := address.third.toNat_lt
  have fourthBound := address.fourth.toNat_lt
  simp [toUInt32, UInt32.toNat_add, UInt32.toNat_mul]
  omega

@[simp]
theorem ofUInt32_toUInt32 (address : Ipv4Address) : ofUInt32 address.toUInt32 = address := by
  obtain ⟨first, second, third, fourth⟩ := address
  have firstBound := first.toNat_lt
  have secondBound := second.toNat_lt
  have thirdBound := third.toNat_lt
  have fourthBound := fourth.toNat_lt
  simp only [ofUInt32, mk.injEq, ← UInt8.toNat_inj]
  simp [UInt32.toNat_div, toNat_toUInt32]
  omega

@[simp]
theorem toUInt32_ofUInt32 (number : UInt32) : (ofUInt32 number).toUInt32 = number := by
  have bound := number.toNat_lt
  apply UInt32.toNat_inj.mp
  rw [toNat_toUInt32]
  simp [ofUInt32, UInt32.toNat_div]
  omega

end Ipv4Address

end Ipv4Router
