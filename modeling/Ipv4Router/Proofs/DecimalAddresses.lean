import Ipv4Router.Ipv4Address
import Mathlib.Data.List.Forall2

/-!
# IPv4 addresses are read back from their text

A row of numerals between separators is read back if each numeral is and none of them holds the
separator.  The decimal numeral of an octet consists of digits alone, so this holds for the text
of an IPv4 address.  The reader is more liberal than the writer, and the converse fails: it also
takes leading zeros and a plus sign.
-/

namespace Ipv4Router

theorem mapM_eq_some_iff_forall₂ {First Second : Type} {read : First → Option Second}
    {members : List First} {results : List Second} :
    members.mapM read = some results ↔
      List.Forall₂ (fun member result => read member = some result) members results := by
  induction members generalizing results with
  | nil =>
      rw [List.mapM_nil, List.forall₂_nil_left_iff, Option.pure_def, Option.some.injEq, eq_comm]
  | cons first rest ih =>
      simp only [List.mapM_cons, List.forall₂_cons_left_iff, ← ih, Option.bind_eq_bind,
        Option.bind_eq_some_iff, Option.pure_def, Option.some.injEq, eq_comm (a := results)]
      constructor
      · rintro ⟨value, head, others, tail, same⟩
        exact ⟨value, others, head, tail, same⟩
      · rintro ⟨value, others, head, tail, same⟩
        exact ⟨value, head, others, tail, same⟩

theorem mapM_eq_some_map {First Second : Type} {read : First → Option Second}
    {value : First → Second} {members : List First}
    (reads : ∀ member ∈ members, read member = some (value member)) :
    members.mapM read = some (members.map value) := by
  rw [mapM_eq_some_iff_forall₂, List.forall₂_map_right_iff, List.forall₂_same]
  exact reads

theorem digitValue?_of_isDigit {character : Char} (digit : character.isDigit = true) :
    digitValue? 10 character = some (character.toNat - 48) := by
  have bounds : 48 ≤ character.toNat ∧ character.toNat ≤ 57 := Char.isDigit_iff_toNat.mp digit
  have small : character.toNat - 48 < 10 := by omega
  simp only [digitValue?, if_pos bounds]
  exact Option.filter_some_pos (decide_eq_true small)

theorem numeralValue_toDigits (number : Nat) :
    numeralValue 10 ((Nat.toDigits 10 number).map (fun character => character.toNat - 48)) =
      number := by
  calc
    numeralValue 10 ((Nat.toDigits 10 number).map (fun character => character.toNat - 48)) =
        Nat.ofDigitChars 10 (Nat.toDigits 10 number) 0 := by
      simp only [numeralValue, List.foldl_map, Nat.ofDigitChars_eq_foldl, Nat.mul_comm 10]
      rfl
    _ = number := Nat.ofDigitChars_ten_toDigits

theorem isDigit_of_mem_decimalNumeral {octet : UInt8} {character : Char}
    (member : character ∈ decimalNumeral octet) : character.isDigit = true :=
  Nat.isDigit_of_mem_toDigits (by decide) (by decide) member

theorem withoutPlus_of_notMem {text : List Char} (bare : '+' ∉ text) : withoutPlus text = text := by
  unfold withoutPlus
  split
  · exact absurd List.mem_cons_self bare
  · rfl

theorem readOctet?_decimalNumeral (octet : UInt8) :
    readOctet? 10 (decimalNumeral octet) = some octet := by
  have digits : ∀ character ∈ decimalNumeral octet, character.isDigit = true :=
    fun _ => isDigit_of_mem_decimalNumeral
  have bare : '+' ∉ decimalNumeral octet := fun plus => absurd (digits '+' plus) (by decide)
  have bound : octet.toNat ≤ 255 := Nat.le_of_lt_succ octet.toNat_lt
  have values : (decimalNumeral octet).mapM (digitValue? 10) =
      some ((decimalNumeral octet).map (fun character => character.toNat - 48)) :=
    mapM_eq_some_map (fun character member => digitValue?_of_isDigit (digits character member))
  rw [readOctet?, withoutPlus_of_notMem bare]
  split
  next empty => exact absurd empty Nat.toDigits_ne_nil
  next =>
    rw [values, decimalNumeral]
    simp only [Option.bind_eq_bind, Option.bind_some, numeralValue_toDigits, if_pos bound]
    exact congrArg some UInt8.ofNat_toNat

/-- A row of numerals is read back if each of them is, and the separator is in none of them. -/
theorem readOctets?_writeOctets {separator : Char} {radix : Nat} {numeral : UInt8 → List Char}
    (reads : ∀ octet, readOctet? radix (numeral octet) = some octet)
    (clear : ∀ octet, separator ∉ numeral octet) {octets : Octets} (nonempty : octets ≠ []) :
    readOctets? separator radix (writeOctets separator numeral octets) = some octets := by
  have pieces : ([separator].intercalate (octets.map numeral)).splitOn separator =
      octets.map numeral := by
    apply List.splitOn_intercalate
    · intro piece member
      obtain ⟨octet, -, rfl⟩ := List.mem_map.mp member
      exact clear octet
    · exact mt List.map_eq_nil_iff.mp nonempty
  have all : octets.mapM (readOctet? radix ∘ numeral) = some (octets.map id) :=
    mapM_eq_some_map (fun octet _ => reads octet)
  rw [readOctets?, writeOctets, String.toList_ofList, pieces, List.mapM_map, all, List.map_id]

namespace Ipv4Address

theorem parse_display (address : Ipv4Address) : parse address.display = .ok address := by
  have clear : ∀ octet, '.' ∉ decimalNumeral octet := by
    intro octet member
    exact absurd (isDigit_of_mem_decimalNumeral member) (by decide)
  have nonempty : address.toOctets ≠ [] := List.cons_ne_nil _ _
  rw [parse, display, readOctets?_writeOctets readOctet?_decimalNumeral clear nonempty]
  rfl

end Ipv4Address

end Ipv4Router
