import Ipv4Router.OctetString

/-!
# Numerals for octets

The text form of an address is made of numerals that each stand for one octet:
decimal ones between points, hexadecimal ones between colons.  Reading is more
liberal than writing: one plus sign may come first, and leading zeros may be
repeated without limit.  A numeral whose value exceeds an octet is refused.
-/

namespace Ipv4Router

/-- The value of an ASCII digit in a radix of at most sixteen; letters of either
case are the digits from ten on. -/
def digitValue? (radix : Nat) (character : Char) : Option Nat :=
  let code := character.toNat
  let value :=
    if 0x30 ≤ code ∧ code ≤ 0x39 then some (code - 0x30)
    else if 0x41 ≤ code ∧ code ≤ 0x46 then some (code - 0x41 + 10)
    else if 0x61 ≤ code ∧ code ≤ 0x66 then some (code - 0x61 + 10)
    else none
  value.filter (fun digit => digit < radix)

/-- The number a row of digit values stands for, most significant digit first. -/
def numeralValue (radix : Nat) (digits : List Nat) : Nat :=
  digits.foldl (fun total digit => total * radix + digit) 0

/-- A numeral without its leading plus sign, if it has one. -/
def withoutPlus : List Char → List Char
  | '+' :: rest => rest
  | text => text

/-- Read a numeral of an octet: an optional plus sign, then at least one digit,
with a value of at most 255. -/
def readOctet? (radix : Nat) (text : List Char) : Option UInt8 :=
  match withoutPlus text with
  | [] => none
  | digits => do
      let values ← digits.mapM (digitValue? radix)
      let value := numeralValue radix values
      if value ≤ 255 then some value.toUInt8 else none

/-- Read a row of numerals between separators. -/
def readOctets? (separator : Char) (radix : Nat) (text : String) : Option Octets :=
  (text.toList.splitOn separator).mapM (readOctet? radix)

/-- The decimal numeral of an octet, without leading zeros. -/
def decimalNumeral (octet : UInt8) : List Char :=
  Nat.toDigits 10 octet.toNat

/-- The digit of a value below sixteen, with capital letters from ten on. -/
def hexadecimalDigit (value : Nat) : Char :=
  value.digitChar.toUpper

/-- The hexadecimal numeral of an octet: two digits in capital letters. -/
def hexadecimalNumeral (octet : UInt8) : List Char :=
  [hexadecimalDigit (octet.toNat / 16), hexadecimalDigit (octet.toNat % 16)]

/-- Write a row of numerals between separators. -/
def writeOctets (separator : Char) (numeral : UInt8 → List Char) (octets : Octets) : String :=
  String.ofList ([separator].intercalate (octets.map numeral))

end Ipv4Router
