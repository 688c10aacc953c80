import Ipv4Router.MacAddress
import Ipv4Router.Proofs.DecimalAddresses
import Mathlib.Data.Nat.Digits.Defs
import Mathlib.Tactic.IntervalCases

/-!
# Which texts are addresses

A text is an address if it is a row of the right number of numerals between separators, each of
which stands for a number that an octet can hold.  A numeral is one digit or more, perhaps behind
a plus sign.  Leading zeros do not count, however many there are, and capital letters are the
same digits as small ones.

This is a grammar: it tells which digits stand for which values, and which number a row of
digits stands for, without saying how either is found.  A reader that goes by it is given the
octets of the address by the numerals, in their order, and refuses all other texts for the same
reason.  Both kinds of address are read in this way, and differ in the separator, the radix and
the number of octets only.
-/

namespace Ipv4Router

/-- A character is the digit of a value.  The letters among the digits may be small or
capital. -/
def DigitStandsFor (radix : Nat) (character : Char) (value : Nat) : Prop :=
  value < radix ∧ (character = value.digitChar ∨ character = value.digitChar.toUpper)

/-- A text is a numeral of a number: one digit or more, most significant first, and perhaps a
plus sign in front of them. -/
def NumeralStandsFor (radix : Nat) (text : List Char) (number : Nat) : Prop :=
  ∃ digits values, (text = digits ∨ text = '+' :: digits) ∧ digits ≠ [] ∧
    List.Forall₂ (DigitStandsFor radix) digits values ∧
    Nat.ofDigits radix values.reverse = number

/-- A text is a row of so many numerals between separators, each of a number that an octet can
hold. -/
structure IsRowOfNumerals (separator : Char) (radix count : Nat) (text : String) : Prop where
  length : (text.toList.splitOn separator).length = count
  octets : ∀ token ∈ text.toList.splitOn separator,
    ∃ number ≤ 255, NumeralStandsFor radix token number

/-- A reader takes the rows of numerals and no other texts.  The octets of the address that it
reads are the numbers that the numerals stand for. -/
structure ReadsRowsOfNumerals {Address : Type} (separator : Char) (radix count : Nat)
    (toOctets : Address → Octets) (read : String → Except AddressError Address) : Prop where
  accepts : ∀ text, (∃ address, read text = .ok address) ↔
    IsRowOfNumerals separator radix count text
  means : ∀ text address, read text = .ok address ↔
    List.Forall₂ (fun token octet => NumeralStandsFor radix token octet.toNat)
      (text.toList.splitOn separator) (toOctets address)
  refuses : ∀ text, read text = .error .unreadable ↔
    ¬ IsRowOfNumerals separator radix count text

theorem toNat_digitChar {value : Nat} (small : value < 16) :
    value.digitChar.toNat = if value < 10 then 48 + value else 87 + value := by
  interval_cases value <;> rfl

theorem toNat_toUpper_digitChar {value : Nat} (small : value < 16) :
    value.digitChar.toUpper.toNat = if value < 10 then 48 + value else 55 + value := by
  interval_cases value <;> decide

theorem digitValue?_eq_some_iff {radix : Nat} (atMost : radix ≤ 16) {character : Char}
    {value : Nat} :
    digitValue? radix character = some value ↔ DigitStandsFor radix character value := by
  rw [digitValue?, Option.filter_eq_some_iff, decide_eq_true_eq, DigitStandsFor, and_comm]
  refine and_congr_right fun below => ?_
  -- Both sides are about the number of the character.
  have small : value < 16 := Nat.lt_of_lt_of_le below atMost
  rw [← Char.toNat_inj, ← Char.toNat_inj, toNat_digitChar small, toNat_toUpper_digitChar small]
  split_ifs <;> simp only [Option.some.injEq, false_iff] <;> omega

/-- The digits of a radix up to sixteen stand behind the signs in the table of characters, apart
from the colon. -/
theorem DigitStandsFor.ne_sign {radix : Nat} (atMost : radix ≤ 16) {character sign : Char}
    {value : Nat} (stands : DigitStandsFor radix character value)
    (isSign : sign.toNat < 48 ∨ sign.toNat = 58) : character ≠ sign := by
  obtain ⟨below, isDigit⟩ := stands
  have small : value < 16 := Nat.lt_of_lt_of_le below atMost
  rw [← Char.toNat_inj, ← Char.toNat_inj, toNat_digitChar small,
    toNat_toUpper_digitChar small] at isDigit
  rintro rfl
  split_ifs at isDigit <;> omega

theorem sign_notMem_digits {radix : Nat} (atMost : radix ≤ 16) {digits : List Char}
    {values : List Nat} (stand : List.Forall₂ (DigitStandsFor radix) digits values) {sign : Char}
    (isSign : sign.toNat < 48 ∨ sign.toNat = 58) : sign ∉ digits := by
  induction stand with
  | nil => exact List.not_mem_nil
  | cons first _ ih =>
      rw [List.mem_cons, not_or]
      exact ⟨(first.ne_sign atMost isSign).symm, ih⟩

theorem numeralValue_eq_ofDigits (radix : Nat) (values : List Nat) :
    numeralValue radix values = Nat.ofDigits radix values.reverse := by
  rw [numeralValue, Nat.ofDigits_eq_foldr, List.foldr_reverse]
  simp only [Nat.cast_id, Nat.mul_comm, Nat.add_comm]

theorem eq_withoutPlus_or_eq_cons (text : List Char) :
    text = withoutPlus text ∨ text = '+' :: withoutPlus text := by
  unfold withoutPlus
  split
  · exact Or.inr rfl
  · exact Or.inl rfl

/-- A numeral is read if digits are left when its sign is taken away, and their value is that of
an octet. -/
theorem readOctet?_eq_some_iff_values {radix : Nat} {text : List Char} {octet : UInt8} :
    readOctet? radix text = some octet ↔
      withoutPlus text ≠ [] ∧ ∃ values,
        (withoutPlus text).mapM (digitValue? radix) = some values ∧
          numeralValue radix values = octet.toNat := by
  have sameOctet : ∀ number, (if number ≤ 255 then some number.toUInt8 else none) = some octet ↔
      number = octet.toNat := by
    intro number
    have bound := octet.toNat_lt
    split
    next atMost =>
      rw [Option.some.injEq, ← UInt8.toNat_inj]
      simp
      omega
    next exceeds => simpa using by omega
  unfold readOctet?
  split
  next empty => simp [empty]
  next nonempty =>
    simp only [Option.bind_eq_bind, Option.bind_eq_some_iff, sameOctet]
    exact (and_iff_right nonempty).symm

theorem readOctet?_eq_some_iff {radix : Nat} (atMost : radix ≤ 16) {text : List Char}
    {octet : UInt8} :
    readOctet? radix text = some octet ↔ NumeralStandsFor radix text octet.toNat := by
  simp only [readOctet?_eq_some_iff_values, mapM_eq_some_iff_forall₂,
    digitValue?_eq_some_iff atMost, numeralValue_eq_ofDigits]
  constructor
  · rintro ⟨nonempty, values, stand, value⟩
    exact ⟨_, values, eq_withoutPlus_or_eq_cons text, nonempty, stand, value⟩
  · rintro ⟨digits, values, rfl | rfl, nonempty, stand, value⟩
    · have bare : '+' ∉ text := sign_notMem_digits atMost stand (by decide)
      rw [withoutPlus_of_notMem bare]
      exact ⟨nonempty, values, stand, value⟩
    · exact ⟨nonempty, values, stand, value⟩

section Rows

variable {separator : Char} {radix count : Nat} {text : String}

theorem readOctets?_eq_some_iff (atMost : radix ≤ 16) {octets : Octets} :
    readOctets? separator radix text = some octets ↔
      List.Forall₂ (fun token octet => NumeralStandsFor radix token octet.toNat)
        (text.toList.splitOn separator) octets := by
  simp only [readOctets?, mapM_eq_some_iff_forall₂, readOctet?_eq_some_iff atMost]

/-- A relation that every member of a list has to something relates the list to a list. -/
theorem exists_forall₂_iff {First Second : Type} {Related : First → Second → Prop}
    {members : List First} :
    (∃ others, List.Forall₂ Related members others) ↔
      ∀ member ∈ members, ∃ other, Related member other := by
  induction members with
  | nil => simp
  | cons first rest ih =>
      rw [List.forall_mem_cons, ← ih]
      simp only [List.forall₂_cons_left_iff]
      constructor
      · rintro ⟨_, other, others, head, tail, rfl⟩
        exact ⟨⟨other, head⟩, others, tail⟩
      · rintro ⟨⟨other, head⟩, others, tail⟩
        exact ⟨_, other, others, head, tail, rfl⟩

theorem exists_octet_iff {token : List Char} :
    (∃ octet : UInt8, NumeralStandsFor radix token octet.toNat) ↔
      ∃ number ≤ 255, NumeralStandsFor radix token number := by
  constructor
  · rintro ⟨octet, stands⟩
    exact ⟨octet.toNat, Nat.le_of_lt_succ octet.toNat_lt, stands⟩
  · rintro ⟨number, atMost, stands⟩
    have same : number.toUInt8.toNat = number := UInt8.toNat_ofNat_of_lt (Nat.lt_succ_of_le atMost)
    exact ⟨number.toUInt8, by rwa [same]⟩

/-- A row of numerals is read as so many octets. -/
theorem isRowOfNumerals_iff (atMost : radix ≤ 16) :
    IsRowOfNumerals separator radix count text ↔
      ∃ octets, octets.length = count ∧ readOctets? separator radix text = some octets := by
  simp only [readOctets?_eq_some_iff atMost]
  constructor
  · rintro ⟨rfl, octets⟩
    simp only [← exists_octet_iff, ← exists_forall₂_iff] at octets
    obtain ⟨octets, stand⟩ := octets
    exact ⟨octets, stand.length_eq.symm, stand⟩
  · rintro ⟨octets, rfl, stand⟩
    refine ⟨stand.length_eq, ?_⟩
    simp only [← exists_octet_iff, ← exists_forall₂_iff]
    exact ⟨octets, stand⟩

/-- A reader goes by the grammar if it asks for so many octets, makes the address of them, and
knows one reason to refuse. -/
theorem readsRowsOfNumerals_of {Address : Type} {toOctets : Address → Octets}
    {read : String → Except AddressError Address} (atMost : radix ≤ 16)
    (addresses : ∀ octets, octets.length = count ↔ ∃ address, toOctets address = octets)
    (reads : ∀ text address, read text = .ok address ↔
      readOctets? separator radix text = some (toOctets address))
    (oneReason : ∀ text fault, read text = .error fault → fault = .unreadable) :
    ReadsRowsOfNumerals separator radix count toOctets read := by
  have accepts : ∀ text, (∃ address, read text = .ok address) ↔
      IsRowOfNumerals separator radix count text := by
    intro text
    rw [isRowOfNumerals_iff atMost]
    constructor
    · rintro ⟨address, taken⟩
      exact ⟨_, (addresses _).mpr ⟨address, rfl⟩, (reads text address).mp taken⟩
    · rintro ⟨octets, length, found⟩
      obtain ⟨address, rfl⟩ := (addresses octets).mp length
      exact ⟨address, (reads text address).mpr found⟩
  refine ⟨accepts, fun text address => ?_, fun text => ?_⟩
  · rw [reads text address, readOctets?_eq_some_iff atMost]
  · rw [← accepts text]
    cases result : read text with
    | ok address => simp
    | error fault => simp [oneReason text fault result]

end Rows

namespace Ipv4Address

theorem length_eq_four_iff (octets : Octets) :
    octets.length = 4 ↔ ∃ address : Ipv4Address, address.toOctets = octets := by
  constructor
  · intro length
    match octets, length with
    | [first, second, third, fourth], _ => exact ⟨⟨first, second, third, fourth⟩, rfl⟩
  · rintro ⟨address, rfl⟩
    rfl

theorem parse_eq_ok_iff (text : String) (address : Ipv4Address) :
    parse text = .ok address ↔ readOctets? '.' 10 text = some address.toOctets := by
  unfold parse
  split
  next first second third fourth read =>
    rw [read, Option.some.injEq, Except.ok.injEq]
    constructor
    · rintro rfl
      rfl
    · intro same
      cases address
      cases same
      rfl
  next other =>
    constructor
    · intro impossible
      cases impossible
    · exact fun read => absurd read (other _ _ _ _)

theorem readsRowsOfNumerals : ReadsRowsOfNumerals '.' 10 4 toOctets parse := by
  apply readsRowsOfNumerals_of (by decide) length_eq_four_iff parse_eq_ok_iff
  intro text fault refused
  unfold parse at refused
  split at refused <;> cases refused
  rfl

end Ipv4Address

namespace MacAddress

theorem length_eq_six_iff (octets : Octets) :
    octets.length = 6 ↔ ∃ address : MacAddress, address.toOctets = octets := by
  constructor
  · intro length
    match octets, length with
    | [first, second, third, fourth, fifth, sixth], _ =>
      exact ⟨⟨first, second, third, fourth, fifth, sixth⟩, rfl⟩
  · rintro ⟨address, rfl⟩
    rfl

theorem parse_eq_ok_iff (text : String) (address : MacAddress) :
    parse text = .ok address ↔ readOctets? ':' 16 text = some address.toOctets := by
  unfold parse
  split
  next first second third fourth fifth sixth read =>
    rw [read, Option.some.injEq, Except.ok.injEq]
    constructor
    · rintro rfl
      rfl
    · intro same
      cases address
      cases same
      rfl
  next other =>
    constructor
    · intro impossible
      cases impossible
    · exact fun read => absurd read (other _ _ _ _ _ _)

theorem readsRowsOfNumerals : ReadsRowsOfNumerals ':' 16 6 toOctets parse := by
  apply readsRowsOfNumerals_of (by decide) length_eq_six_iff parse_eq_ok_iff
  intro text fault refused
  unfold parse at refused
  split at refused <;> cases refused
  rfl

end MacAddress

theorem digitStandsFor_hexadecimalDigit {value : Nat} (small : value < 16) :
    DigitStandsFor 16 (hexadecimalDigit value) value :=
  ⟨small, Or.inr rfl⟩

/-- The two digits of an octet stand for its quotient and remainder by sixteen. -/
theorem digits_hexadecimalNumeral (octet : UInt8) :
    List.Forall₂ (DigitStandsFor 16) (hexadecimalNumeral octet)
      [octet.toNat / 16, octet.toNat % 16] := by
  have bound := octet.toNat_lt
  have top : octet.toNat / 16 < 16 := by omega
  have bottom : octet.toNat % 16 < 16 := Nat.mod_lt _ (by decide)
  exact .cons (digitStandsFor_hexadecimalDigit top)
    (.cons (digitStandsFor_hexadecimalDigit bottom) .nil)

theorem readOctet?_hexadecimalNumeral (octet : UInt8) :
    readOctet? 16 (hexadecimalNumeral octet) = some octet := by
  have value : Nat.ofDigits 16 [octet.toNat / 16, octet.toNat % 16].reverse = octet.toNat :=
    Nat.mod_add_div octet.toNat 16
  exact (readOctet?_eq_some_iff (Nat.le_refl 16)).mpr
    ⟨_, _, Or.inl rfl, List.cons_ne_nil _ _, digits_hexadecimalNumeral octet, value⟩

theorem MacAddress.parse_display (address : MacAddress) : parse address.display = .ok address := by
  have clear : ∀ octet, ':' ∉ hexadecimalNumeral octet := fun octet =>
    sign_notMem_digits (Nat.le_refl 16) (digits_hexadecimalNumeral octet) (Or.inr rfl)
  rw [parse_eq_ok_iff, display]
  exact readOctets?_writeOctets readOctet?_hexadecimalNumeral clear (List.cons_ne_nil _ _)

/-- An IPv4 address is read from four decimal numerals between points, and a hardware address
from six hexadecimal numerals between colons, each of which stands for an octet of the address.
No other text is an address.  Every address is read back from the text that displays it, and from
the number that its octets are the digits of. -/
theorem addresses_read_by_grammar :
    ReadsRowsOfNumerals '.' 10 4 Ipv4Address.toOctets Ipv4Address.parse ∧
    ReadsRowsOfNumerals ':' 16 6 MacAddress.toOctets MacAddress.parse ∧
    (∀ address : Ipv4Address, Ipv4Address.parse address.display = .ok address) ∧
    (∀ address : MacAddress, MacAddress.parse address.display = .ok address) ∧
    (∀ address : Ipv4Address, Ipv4Address.ofUInt32 address.toUInt32 = address) ∧
    ∀ number : UInt32, (Ipv4Address.ofUInt32 number).toUInt32 = number :=
  ⟨Ipv4Address.readsRowsOfNumerals, MacAddress.readsRowsOfNumerals, Ipv4Address.parse_display,
    MacAddress.parse_display, Ipv4Address.ofUInt32_toUInt32, Ipv4Address.toUInt32_ofUInt32⟩

/-- A sign and leading zeros are passed over, and letters are read in either case. -/
example :
    Ipv4Address.parse "+010.0.00000.255" = .ok ⟨10, 0, 0, 255⟩ ∧
    Ipv4Address.parse "10.0.256.1" = .error .unreadable ∧
    MacAddress.parse "02:0:+0:000:aA:fF" = .ok ⟨2, 0, 0, 0, 0xAA, 0xFF⟩ := by
  decide +kernel

end Ipv4Router
