import Ipv4Router.Route
import Mathlib.Data.Nat.Bitwise
import Mathlib.Data.Set.Basic

/-!
# Networks

A mask tells which bits of an address matter.  The network of a route is the set of the
addresses that agree with its destination on these bits.  A network that lies within another
is fixed by all the bits that fix the other, so its mask is at least as great a number.

The order of masks as numbers is therefore an order of networks by how specific they are,
whether or not the bits of the masks are contiguous.  Among contiguous masks it is the order of
the lengths of prefixes.
-/

namespace Ipv4Router

namespace Ipv4Address

/-- The bits of an address, counted from the last bit of its last octet. -/
def bit (address : Ipv4Address) (position : Nat) : Bool :=
  address.toUInt32.toNat.testBit position

/-- The set bits of a mask are a given number of leading bits. -/
def IsPrefixMask (mask : Ipv4Address) (length : Nat) : Prop :=
  length ≤ 32 ∧ ∀ position < 32, mask.bit position = decide (32 - length ≤ position)

/-- The address that differs in one bit. -/
def flipBit (address : Ipv4Address) (position : Nat) : Ipv4Address :=
  ofUInt32 (UInt32.ofNat (address.toUInt32.toNat ^^^ 2 ^ position))

variable {first second : Ipv4Address}

theorem bit_eq_false (address : Ipv4Address) {position : Nat} (outside : 32 ≤ position) :
    address.bit position = false := by
  apply Nat.testBit_lt_two_pow
  exact Nat.lt_of_lt_of_le address.toUInt32.toNat_lt (Nat.pow_le_pow_right (by decide) outside)

theorem bit_flipBit (address : Ipv4Address) {position : Nat} (inside : position < 32)
    (other : Nat) :
    (address.flipBit position).bit other = (address.bit other ^^ decide (position = other)) := by
  have weight : 2 ^ position < 2 ^ 32 := Nat.pow_lt_pow_right (by decide) inside
  have bound : address.toUInt32.toNat ^^^ 2 ^ position < 2 ^ 32 :=
    Nat.xor_lt_two_pow address.toUInt32.toNat_lt weight
  simp only [bit, flipBit, toUInt32_ofUInt32, UInt32.toNat_ofNat', Nat.mod_eq_of_lt bound,
    Nat.testBit_xor, Nat.testBit_two_pow]

/-- An address whose bits are all set in another is the smaller number. -/
theorem toUInt32_le_of_bits
    (included : ∀ position, first.bit position = true → second.bit position = true) :
    first.toUInt32 ≤ second.toUInt32 := by
  have meet : first.toUInt32.toNat &&& second.toUInt32.toNat = first.toUInt32.toNat := by
    apply Nat.eq_of_testBit_eq
    intro position
    rw [Nat.testBit_and]
    cases set : first.toUInt32.toNat.testBit position with
    | false => rfl
    | true => exact included position set
  rw [UInt32.le_iff_toNat_le, ← meet]
  exact Nat.and_le_right

/-- Of two contiguous masks, the greater number has the longer prefix. -/
theorem IsPrefixMask.length_lt {firstLength secondLength : Nat}
    (firstPrefix : first.IsPrefixMask firstLength)
    (secondPrefix : second.IsPrefixMask secondLength)
    (less : first.toUInt32 < second.toUInt32) : firstLength < secondLength := by
  by_contra notShorter
  have included : ∀ position, second.bit position = true → first.bit position = true := by
    intro position set
    by_cases inside : position < 32
    · rw [secondPrefix.2 position inside, decide_eq_true_eq] at set
      rw [firstPrefix.2 position inside, decide_eq_true_eq]
      omega
    · rw [second.bit_eq_false (Nat.le_of_not_lt inside)] at set
      cases set
  have notGreater := toUInt32_le_of_bits included
  rw [UInt32.le_iff_toNat_le] at notGreater
  rw [UInt32.lt_iff_toNat_lt] at less
  omega

end Ipv4Address

namespace Route

/-- The network of a route, as a set of addresses. -/
def addresses (route : Route) : Set Ipv4Address :=
  { address | route.covers address = true }

variable {route other : Route} {address : Ipv4Address}

theorem covers_iff_bits :
    route.covers address = true ↔ ∀ position, route.mask.bit position = true →
      address.bit position = route.destination.bit position := by
  simp only [covers, network, beq_iff_eq, ← UInt32.toNat_inj, UInt32.toNat_and]
  constructor
  · intro agree position set
    have atPosition := congrArg (Nat.testBit · position) agree
    simp only [Ipv4Address.bit] at set ⊢
    simpa only [Nat.testBit_and, set, Bool.and_true] using atPosition
  · intro agree
    apply Nat.eq_of_testBit_eq
    intro position
    rw [Nat.testBit_and, Nat.testBit_and]
    cases set : route.mask.toUInt32.toNat.testBit position with
    | false => rw [Bool.and_false, Bool.and_false]
    | true =>
        rw [Bool.and_true, Bool.and_true]
        exact agree position set

theorem clashes_of_covers (covered : route.covers address = true)
    (otherCovered : other.covers address = true) (sameMask : other.mask = route.mask) :
    other.Clashes route := by
  simp only [covers, beq_iff_eq] at covered otherCovered
  exact ⟨sameMask, by rw [← covered, ← otherCovered, sameMask]⟩

/-- A network that lies within another is fixed by all the bits that fix the other. -/
theorem mask_bits_of_subset (covered : other.covers address = true)
    (within : other.addresses ⊆ route.addresses) {position : Nat}
    (set : route.mask.bit position = true) : other.mask.bit position = true := by
  by_contra unset
  have inside : position < 32 := by
    by_contra outside
    rw [route.mask.bit_eq_false (Nat.le_of_not_lt outside)] at set
    cases set
  -- With a bit flipped that does not matter to the smaller network, the address is still in it.
  have flippedCovered : other.covers (address.flipBit position) = true := by
    rw [covers_iff_bits] at covered ⊢
    intro elsewhere otherSet
    have different : position ≠ elsewhere := fun same => unset (same ▸ otherSet)
    rw [address.bit_flipBit inside, decide_eq_false different, Bool.xor_false]
    exact covered elsewhere otherSet
  have before := covers_iff_bits.mp (within covered) position set
  have after := covers_iff_bits.mp (within flippedCovered) position set
  rw [address.bit_flipBit inside, decide_eq_true rfl, before, Bool.xor_true] at after
  exact Bool.not_ne_self _ after

/-- A network that lies within another has a mask that is at least as great. -/
theorem mask_le_of_subset (covered : other.covers address = true)
    (within : other.addresses ⊆ route.addresses) :
    route.mask.toUInt32 ≤ other.mask.toUInt32 :=
  Ipv4Address.toUInt32_le_of_bits (fun _ set => mask_bits_of_subset covered within set)

end Route

end Ipv4Router
