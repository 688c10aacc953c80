import Ipv4Router.Proofs.ChecksumResidue

/-!
# Checked operations

A machine reads and writes octets at places that have to lie inside a string, copies
a run over a range that has to be as long, and computes with numbers that have to fit
their registers.  Where one of these conditions fails, it stops.

The definitions of the router leave these conditions out: an octet past the end reads
as zero, an overlong run is cut off and numbers wrap around.  This file gives each such
operation a checked form, which yields a violation where the machine would stop, and
tells when the two forms agree.
-/

namespace Ipv4Router

/-- Why a machine stops in the midst of an operation. -/
inductive Violation
  /-- A place or range lies outside a string. -/
  | outOfRange
  /-- A run is copied over a range of another length. -/
  | unequalLengths
  /-- A result does not fit its register. -/
  | overflow
  /-- A number changes when it is narrowed. -/
  | lossyNarrowing
  deriving DecidableEq

/-- The result of a computation in which every operation is checked. -/
abbrev Checked := Except Violation

namespace Checked

/-- A value that is right under a condition. -/
def provided {Value : Type} (condition : Prop) [Decidable condition] (violation : Violation)
    (value : Value) : Checked Value :=
  if condition then .ok value else .error violation

theorem provided_eq {Value : Type} {condition : Prop} [Decidable condition]
    (holds : condition) (violation : Violation) (value : Value) :
    provided condition violation value = .ok value :=
  if_pos holds

@[simp]
theorem ok_bind {Value Result : Type} (value : Value) (next : Value → Checked Result) :
    (Except.ok value >>= next) = next value :=
  rfl

@[simp]
theorem pure_eq_ok {Value : Type} (value : Value) : (pure value : Checked Value) = .ok value :=
  rfl

end Checked

open Checked

def checkedAdd (left right : UInt32) : Checked UInt32 :=
  provided (left.toNat + right.toNat < UInt32.size) .overflow (left + right)

def checkedMul (left right : UInt8) : Checked UInt8 :=
  provided (left.toNat * right.toNat < UInt8.size) .overflow (left * right)

def checkedPred (number : UInt8) : Checked UInt8 :=
  provided (1 ≤ number.toNat) .overflow (number - 1)

def checkedSub (left right : Nat) : Checked Nat :=
  provided (right ≤ left) .overflow (left - right)

/-- A number as a word, which has to be the same number. -/
def checkedWord (number : Nat) : Checked UInt16 :=
  provided (number < UInt16.size) .lossyNarrowing number.toUInt16

theorem checkedAdd_eq {left right : UInt32}
    (fits : left.toNat + right.toNat < UInt32.size) :
    checkedAdd left right = .ok (left + right) ∧
      (left + right).toNat = left.toNat + right.toNat :=
  ⟨provided_eq fits _ _, by rw [UInt32.toNat_add]; exact Nat.mod_eq_of_lt fits⟩

namespace Octets

variable {octets run : Octets} {start stop offset : Nat}

def checkedOctetAt (octets : Octets) (offset : Nat) : Checked UInt8 :=
  provided (offset < octets.length) .outOfRange (octets.octetAt offset)

def checkedWordAt (octets : Octets) (offset : Nat) : Checked UInt16 :=
  provided (offset + 2 ≤ octets.length) .outOfRange (octets.wordAt offset)

/-- The octets from one place up to another. -/
def checkedRange (octets : Octets) (start stop : Nat) : Checked Octets :=
  provided (start ≤ stop ∧ stop ≤ octets.length) .outOfRange ((octets.take stop).drop start)

/-- Copy a run over the octets from one place up to another. -/
def checkedCopy (octets : Octets) (start stop : Nat) (run : Octets) : Checked Octets := do
  let range ← octets.checkedRange start stop
  provided (run.length = range.length) .unequalLengths (octets.overwrite start run)

/-- The octets from one place on, copied into an array of a fixed length. -/
def checkedArray (octets : Octets) (start length : Nat) : Checked Octets := do
  let range ← octets.checkedRange start (start + length)
  checkedCopy (List.replicate length 0) 0 length range

def checkedSetOctet (octets : Octets) (offset : Nat) (value : UInt8) : Checked Octets :=
  provided (offset < octets.length) .outOfRange (octets.setOctet offset value)

def checkedSetWord (octets : Octets) (offset : Nat) (value : UInt16) : Checked Octets :=
  octets.checkedCopy offset (offset + 2) (ofWord value)

theorem checkedOctetAt_eq (inside : offset < octets.length) :
    octets.checkedOctetAt offset = .ok (octets.octetAt offset) :=
  provided_eq inside _ _

theorem checkedWordAt_eq (inside : offset + 2 ≤ octets.length) :
    octets.checkedWordAt offset = .ok (octets.wordAt offset) :=
  provided_eq inside _ _

theorem checkedRange_eq (ordered : start ≤ stop) (inside : stop ≤ octets.length) :
    octets.checkedRange start stop = .ok ((octets.take stop).drop start) :=
  provided_eq ⟨ordered, inside⟩ _ _

theorem checkedRange_of_stop_eq (ordered : start ≤ octets.length) :
    octets.checkedRange start octets.length = .ok (octets.drop start) := by
  rw [checkedRange_eq ordered (Nat.le_refl _), List.take_length]

theorem checkedCopy_eq (stopEq : stop = start + run.length) (inside : stop ≤ octets.length) :
    octets.checkedCopy start stop run = .ok (octets.overwrite start run) := by
  have rangeLength : ((octets.take stop).drop start).length = run.length := by
    rw [List.length_drop, List.length_take]
    omega
  rw [checkedCopy, checkedRange_eq (by omega) inside, ok_bind]
  exact provided_eq rangeLength.symm _ _

theorem checkedSetOctet_eq (value : UInt8) (inside : offset < octets.length) :
    octets.checkedSetOctet offset value = .ok (octets.setOctet offset value) :=
  provided_eq inside _ _

theorem checkedSetWord_eq (value : UInt16) (inside : offset + 2 ≤ octets.length) :
    octets.checkedSetWord offset value = .ok (octets.setWord offset value) :=
  checkedCopy_eq rfl inside

theorem octetAt_range {length : Nat} (inside : offset < length) :
    octetAt ((octets.take (start + length)).drop start) offset =
      octets.octetAt (start + offset) := by
  rw [octetAt_drop, octetAt_take (by omega)]

theorem overwrite_zero_eq (sameLength : run.length = octets.length) :
    octets.overwrite 0 run = run := by
  rw [overwrite_eq_append (by omega), List.take_zero, List.nil_append, Nat.zero_add, sameLength,
    List.drop_length, List.append_nil]

theorem checkedCopy_whole (sameLength : run.length = octets.length) :
    octets.checkedCopy 0 octets.length run = .ok run := by
  rw [checkedCopy_eq (by omega) (Nat.le_refl _), overwrite_zero_eq sameLength]

theorem checkedArray_eq {length : Nat} (inside : start + length ≤ octets.length) :
    octets.checkedArray start length =
      .ok ((octets.take (start + length)).drop start) := by
  have rangeLength : ((octets.take (start + length)).drop start).length = length := by
    rw [List.length_drop, List.length_take]
    omega
  rw [checkedArray, checkedRange_eq (by omega) inside, ok_bind,
    checkedCopy_eq (by omega) (by simp),
    overwrite_zero_eq (by rw [rangeLength, List.length_replicate])]

end Octets

def MacAddress.checkedReadAt (octets : Octets) (offset : Nat) : Checked MacAddress := do
  return MacAddress.readAt (← octets.checkedArray offset 6) 0

theorem MacAddress.checkedReadAt_eq {octets : Octets} {offset : Nat}
    (inside : offset + 6 ≤ octets.length) :
    MacAddress.checkedReadAt octets offset = .ok (MacAddress.readAt octets offset) := by
  have same : MacAddress.readAt ((octets.take (offset + 6)).drop offset) 0 =
      MacAddress.readAt octets offset :=
    MacAddress.readAt_congr (fun step small => by
      rw [Nat.zero_add]
      exact Octets.octetAt_range small)
  rw [checkedReadAt, Octets.checkedArray_eq inside, ok_bind, same, pure_eq_ok]

def Ipv4Address.checkedReadAt (octets : Octets) (offset : Nat) : Checked Ipv4Address := do
  return Ipv4Address.readAt (← octets.checkedArray offset 4) 0

theorem Ipv4Address.checkedReadAt_eq {octets : Octets} {offset : Nat}
    (inside : offset + 4 ≤ octets.length) :
    Ipv4Address.checkedReadAt octets offset = .ok (Ipv4Address.readAt octets offset) := by
  have same : Ipv4Address.readAt ((octets.take (offset + 4)).drop offset) 0 =
      Ipv4Address.readAt octets offset :=
    Ipv4Address.readAt_congr (fun step small => by
      rw [Nat.zero_add]
      exact Octets.octetAt_range small)
  rw [checkedReadAt, Octets.checkedArray_eq inside, ok_bind, same, pure_eq_ok]

def checkedAccumulateWords (total : UInt32) : Octets → Checked UInt32
  | [] => .ok total
  | [last] => checkedAdd total (Octets.word last 0).toUInt32
  | high :: low :: rest => do
      checkedAccumulateWords (← checkedAdd total (Octets.word high low).toUInt32) rest

/-- Fold the carries of a register, each time by a sum that has to fit it, and narrow
it in the end to a word. -/
def checkedFoldCarries (total : UInt32) : Checked UInt16 :=
  if total ≤ 65535 then checkedWord total.toNat
  else if (total % 65536).toNat + (total / 65536).toNat < UInt32.size then
    checkedFoldCarries (foldOnce total)
  else .error .overflow
termination_by total.toNat
decreasing_by exact foldOnce_lt ‹_›

def checkedInternetChecksum (octets : Octets) : Checked UInt16 := do
  let total ← checkedAccumulateWords 0 octets
  return ~~~ (← checkedFoldCarries total)

theorem checkedAccumulateWords_eq {total : UInt32} {octets : Octets}
    (fits : total.toNat + wordSum octets < UInt32.size) :
    checkedAccumulateWords total octets = .ok (accumulateWords total octets) := by
  have wordEq : ∀ high low : UInt8, (Octets.word high low).toUInt32.toNat =
      high.toNat * 256 + low.toNat := by
    intro high low
    rw [UInt16.toNat_toUInt32, Octets.toNat_word]
  induction octets using wordSum.induct generalizing total with
  | case1 => rfl
  | case2 last =>
      simp only [wordSum] at fits
      have lastEq := wordEq last 0
      rw [UInt8.toNat_zero] at lastEq
      rw [checkedAccumulateWords, (checkedAdd_eq (by omega)).1, accumulateWords]
  | case3 high low rest ih =>
      simp only [wordSum] at fits
      have headEq := wordEq high low
      have headFits : total.toNat + (Octets.word high low).toUInt32.toNat < UInt32.size := by
        omega
      obtain ⟨added, sum⟩ := checkedAdd_eq headFits
      rw [checkedAccumulateWords, added, ok_bind, ih (by omega), accumulateWords]

theorem checkedFoldCarries_eq (total : UInt32) :
    checkedFoldCarries total = .ok (foldCarries total) := by
  induction total using foldCarries.induct with
  | case1 total small =>
      have smallNat : total.toNat < UInt16.size := by
        have atMost := UInt32.le_iff_toNat_le.mp small
        exact Nat.lt_succ_of_le atMost
      rw [checkedFoldCarries, if_pos small, foldCarries, if_pos small, checkedWord,
        provided_eq smallNat]
      rfl
  | case2 total large ih =>
      have bound := total.toNat_lt
      have fits : (total % 65536).toNat + (total / 65536).toNat < UInt32.size := by
        simp only [UInt32.toNat_mod, UInt32.toNat_div]
        simp [UInt32.size]
        omega
      have unfolded : foldCarries total = foldCarries (foldOnce total) := by
        rw [foldCarries, if_neg large]
      rw [checkedFoldCarries, if_neg large, if_pos fits, ih, unfolded]

/-- The checksum of a string of at most `131074` octets needs no more than the
register. -/
theorem checkedInternetChecksum_eq {octets : Octets} (short : octets.length ≤ 131074) :
    checkedInternetChecksum octets = .ok (internetChecksum octets) := by
  have bound := wordSum_le octets
  have fits : (0 : UInt32).toNat + wordSum octets < UInt32.size := by
    simp only [UInt32.toNat_zero, UInt32.size]
    omega
  rw [checkedInternetChecksum, checkedAccumulateWords_eq fits, ok_bind, checkedFoldCarries_eq]
  rfl

end Ipv4Router
