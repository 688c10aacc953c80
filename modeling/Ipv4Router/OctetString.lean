/-!
# Octet strings

Everything a router receives, stores and sends is a finite string of octets.
This file fixes how the fields of such a string are read and written: an octet
or a big-endian word at an offset, and a run of octets overwritten in place.

Overwriting never changes the length of a string, and an octet outside the
overwritten run keeps its value.  These two facts are all that later files need
to know about a written field.
-/

namespace Ipv4Router

/-- A finite string of octets, first octet first. -/
abbrev Octets := List UInt8

namespace Octets

/-- The word whose big-endian form is the two given octets. -/
def word (high low : UInt8) : UInt16 :=
  high.toUInt16 * 256 + low.toUInt16

def ofWord (value : UInt16) : Octets :=
  [(value / 256).toUInt8, value.toUInt8]

theorem toNat_word (high low : UInt8) :
    (word high low).toNat = high.toNat * 256 + low.toNat := by
  have highBound := high.toNat_lt
  have lowBound := low.toNat_lt
  simp [word, UInt16.toNat_add, UInt16.toNat_mul]
  omega

theorem word_ofWord (value : UInt16) :
    word (value / 256).toUInt8 value.toUInt8 = value := by
  apply UInt16.toNat_inj.mp
  have bound := value.toNat_lt
  rw [toNat_word]
  simp [UInt16.toNat_div]
  omega

theorem ofWord_word (high low : UInt8) : ofWord (word high low) = [high, low] := by
  have highBound := high.toNat_lt
  have lowBound := low.toNat_lt
  have highEq : (word high low / 256).toUInt8 = high := by
    apply UInt8.toNat_inj.mp
    simp [UInt16.toNat_div, toNat_word]
    omega
  have lowEq : (word high low).toUInt8 = low := by
    apply UInt8.toNat_inj.mp
    simp [toNat_word]
  rw [ofWord, highEq, lowEq]

@[simp]
theorem length_ofWord (value : UInt16) : (ofWord value).length = 2 :=
  rfl

/-- The octet at an offset; past the end of the string every octet is zero. -/
def octetAt (octets : Octets) (offset : Nat) : UInt8 :=
  octets.getD offset 0

/-- The big-endian word that starts at an offset. -/
def wordAt (octets : Octets) (offset : Nat) : UInt16 :=
  word (octets.octetAt offset) (octets.octetAt (offset + 1))

/-- Overwrite the run of octets that starts at an offset.  Octets that would
fall past the end of the string are dropped, so the length never changes. -/
def overwrite (octets : Octets) (offset : Nat) : Octets → Octets
  | [] => octets
  | octet :: rest => overwrite (octets.set offset octet) (offset + 1) rest

def setOctet (octets : Octets) (offset : Nat) (value : UInt8) : Octets :=
  octets.overwrite offset [value]

def setWord (octets : Octets) (offset : Nat) (value : UInt16) : Octets :=
  octets.overwrite offset (ofWord value)

@[simp]
theorem length_overwrite (octets : Octets) (offset : Nat) (run : Octets) :
    (octets.overwrite offset run).length = octets.length := by
  induction run generalizing octets offset with
  | nil => rfl
  | cons octet rest ih => simp [overwrite, ih]

@[simp]
theorem length_setOctet (octets : Octets) (offset : Nat) (value : UInt8) :
    (octets.setOctet offset value).length = octets.length :=
  length_overwrite octets offset [value]

@[simp]
theorem length_setWord (octets : Octets) (offset : Nat) (value : UInt16) :
    (octets.setWord offset value).length = octets.length :=
  length_overwrite octets offset (ofWord value)

theorem octetAt_set (octets : Octets) (target offset : Nat) (value : UInt8) :
    octetAt (octets.set target value) offset =
      if target = offset ∧ offset < octets.length then value
      else octets.octetAt offset := by
  simp only [octetAt, List.getD_eq_getElem?_getD, List.getElem?_set]
  by_cases same : target = offset
  · subst same
    by_cases inside : target < octets.length <;> simp [inside]
  · simp [same]

/-- After an overwrite, the octets inside the run are those of the run and all
others are unchanged. -/
theorem octetAt_overwrite (octets : Octets) (start : Nat) (run : Octets) (offset : Nat) :
    (octets.overwrite start run).octetAt offset =
      if start ≤ offset ∧ offset < start + run.length ∧ offset < octets.length then
        run.octetAt (offset - start)
      else octets.octetAt offset := by
  induction run generalizing octets start with
  | nil =>
      have outside : ¬ (start ≤ offset ∧ offset < start + 0 ∧ offset < octets.length) := by
        omega
      simp only [overwrite, List.length_nil, if_neg outside]
  | cons octet rest ih =>
      rw [overwrite, ih, octetAt_set]
      simp only [List.length_set, List.length_cons]
      by_cases first : start = offset
      · subst first
        have notLater : ¬ (start + 1 ≤ start ∧ start < start + 1 + rest.length ∧
            start < octets.length) := by omega
        rw [if_neg notLater]
        by_cases inside : start < octets.length
        · simp [inside, octetAt]
        · simp [inside]
      · by_cases later : start + 1 ≤ offset ∧ offset < start + 1 + rest.length ∧
            offset < octets.length
        · have whole : start ≤ offset ∧ offset < start + (rest.length + 1) ∧
              offset < octets.length := by omega
          rw [if_pos later, if_pos whole]
          obtain ⟨steps, rfl⟩ : ∃ steps, offset = start + 1 + steps :=
            ⟨offset - (start + 1), by omega⟩
          have restIndex : start + 1 + steps - (start + 1) = steps := by omega
          have runIndex : start + 1 + steps - start = steps + 1 := by omega
          rw [restIndex, runIndex]
          simp [octetAt]
        · have outside : ¬ (start ≤ offset ∧ offset < start + (rest.length + 1) ∧
              offset < octets.length) := by omega
          rw [if_neg later, if_neg outside, if_neg (by omega)]

theorem ext_octetAt {first second : Octets} (lengthEq : first.length = second.length)
    (octetEq : ∀ offset, first.octetAt offset = second.octetAt offset) :
    first = second := by
  apply List.ext_getElem lengthEq
  intro offset firstBound secondBound
  have atOffset := octetEq offset
  simpa [octetAt, List.getD_eq_getElem?_getD, firstBound, secondBound] using atOffset

end Octets

end Ipv4Router
