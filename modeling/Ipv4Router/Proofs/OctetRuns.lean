import Ipv4Router.EthernetFrame
import Ipv4Router.Ipv4Packet
import Mathlib.Data.List.GetD

/-!
# Runs of octets

A written field is read back with the value it was given, and writing it leaves
every field outside its run alone.  This file derives these two facts for the
hardware addresses, words and octets of frames and packets from the law of
overwriting, and shows how they pass to the parts of a string.
-/

namespace Ipv4Router

namespace Octets

theorem octetAt_drop (octets : Octets) (start offset : Nat) :
    octetAt (octets.drop start) offset = octets.octetAt (start + offset) := by
  simp [octetAt, List.getD_eq_getElem?_getD]

theorem octetAt_take {octets : Octets} {stop offset : Nat} (inside : offset < stop) :
    octetAt (octets.take stop) offset = octets.octetAt offset := by
  simp [octetAt, List.getD_eq_getElem?_getD, inside]

theorem octetAt_append_left {first second : Octets} {offset : Nat}
    (inside : offset < first.length) :
    octetAt (first ++ second) offset = first.octetAt offset := by
  unfold octetAt
  rw [List.getD_append _ _ _ _ inside]

theorem octetAt_append_right (first second : Octets) (offset : Nat) :
    octetAt (first ++ second) (first.length + offset) = second.octetAt offset := by
  unfold octetAt
  rw [List.getD_append_right _ _ _ _ (by omega), Nat.add_sub_cancel_left]

/-- Past the end of a string every octet is zero. -/
theorem octetAt_of_length_le {octets : Octets} {offset : Nat}
    (past : octets.length ≤ offset) : octets.octetAt offset = 0 :=
  List.getD_eq_default _ _ past

/-- A word stands at the start of what follows its place. -/
theorem drop_eq_ofWord_append {octets : Octets} {offset : Nat}
    (fits : offset + 2 ≤ octets.length) :
    octets.drop offset = ofWord (octets.wordAt offset) ++ octets.drop (offset + 2) := by
  have firstInside : offset < octets.length := by omega
  have secondInside : offset + 1 < octets.length := by omega
  rw [List.drop_eq_getElem_cons firstInside, List.drop_eq_getElem_cons secondInside, wordAt,
    ofWord_word]
  simp [octetAt, List.getD_eq_getElem?_getD, firstInside, secondInside]

theorem octetAt_overwrite_of_lt {octets run : Octets} {start offset : Nat}
    (before : offset < start) :
    (octets.overwrite start run).octetAt offset = octets.octetAt offset := by
  rw [octetAt_overwrite, if_neg (by omega)]

theorem octetAt_overwrite_of_le {octets run : Octets} {start offset : Nat}
    (behind : start + run.length ≤ offset) :
    (octets.overwrite start run).octetAt offset = octets.octetAt offset := by
  rw [octetAt_overwrite, if_neg (by omega)]

/-- Octets of an overwritten run that fits hold the octets of the run. -/
theorem octetAt_overwrite_of_fits {octets run : Octets} {start offset : Nat}
    (fits : start + run.length ≤ octets.length) (inside : offset < run.length) :
    (octets.overwrite start run).octetAt (start + offset) = run.octetAt offset := by
  rw [octetAt_overwrite, if_pos (by omega), Nat.add_sub_cancel_left]

theorem octetAt_setOctet {octets : Octets} {offset : Nat} (value : UInt8)
    (inside : offset < octets.length) :
    (octets.setOctet offset value).octetAt offset = value := by
  rw [setOctet, octetAt_overwrite, if_pos ⟨Nat.le_refl _, Nat.lt_succ_self _, inside⟩,
    Nat.sub_self]
  rfl

theorem wordAt_setWord {octets : Octets} {offset : Nat} (value : UInt16)
    (fits : offset + 2 ≤ octets.length) :
    (octets.setWord offset value).wordAt offset = value := by
  have wordFits : offset + (ofWord value).length ≤ octets.length := fits
  have octetEq : ∀ step < 2, (octets.setWord offset value).octetAt (offset + step) =
      (ofWord value).octetAt step :=
    fun step small => octetAt_overwrite_of_fits wordFits small
  have high := octetEq 0 (by decide)
  rw [Nat.add_zero] at high
  rw [wordAt, high, octetEq 1 (by decide)]
  exact word_ofWord value

/-- An octet that is written is the high octet of the word at its place. -/
theorem setOctet_eq_setWord {octets : Octets} {offset : Nat} (value : UInt8)
    (fits : offset + 2 ≤ octets.length) :
    octets.setOctet offset value =
      octets.setWord offset (word value (octets.octetAt (offset + 1))) := by
  rw [setWord, ofWord_word]
  apply ext_octetAt
  · simp
  · intro other
    simp only [setOctet, octetAt_overwrite, List.length_cons, List.length_nil]
    by_cases high : other = offset
    · subst high
      have inside : other < octets.length := by omega
      simp [inside, octetAt]
    by_cases low : other = offset + 1
    · subst low
      have inside : offset + 1 < octets.length := by omega
      simp [inside, octetAt]
    · rw [if_neg (by omega), if_neg (by omega)]

/-- A run that fits takes the place of as many octets. -/
theorem overwrite_eq_append {octets run : Octets} {start : Nat}
    (fits : start + run.length ≤ octets.length) :
    octets.overwrite start run =
      octets.take start ++ run ++ octets.drop (start + run.length) := by
  have startLength : (octets.take start).length = start := by
    rw [List.length_take]
    omega
  apply ext_octetAt
  · simp only [length_overwrite, List.length_append, List.length_drop, startLength]
    omega
  · intro offset
    rcases Nat.lt_or_ge offset start with before | notBefore
    · rw [octetAt_overwrite_of_lt before, List.append_assoc,
        octetAt_append_left (by omega), octetAt_take before]
    rcases Nat.lt_or_ge offset (start + run.length) with inside | behind
    · obtain ⟨steps, rfl⟩ : ∃ steps, offset = start + steps := ⟨offset - start, by omega⟩
      have stepsInside : steps < run.length := by omega
      have atRun := octetAt_append_right (octets.take start) run steps
      rw [startLength] at atRun
      rw [octetAt_overwrite_of_fits fits stepsInside,
        octetAt_append_left (by simp only [List.length_append, startLength]; omega), atRun]
    · obtain ⟨steps, rfl⟩ : ∃ steps, offset = start + run.length + steps :=
        ⟨offset - (start + run.length), by omega⟩
      have atRest := octetAt_append_right (octets.take start ++ run)
        (octets.drop (start + run.length)) steps
      rw [List.length_append, startLength, octetAt_drop] at atRest
      rw [octetAt_overwrite_of_le behind, atRest]

theorem overwrite_append (octets : Octets) (start : Nat) (first second : Octets) :
    octets.overwrite start (first ++ second) =
      (octets.overwrite start first).overwrite (start + first.length) second := by
  induction first generalizing octets start with
  | nil => rfl
  | cons octet rest ih =>
      rw [List.cons_append, overwrite, overwrite, ih, List.length_cons]
      congr 1
      omega

theorem overwrite_comm (octets : Octets) {first second : Octets} {start other : Nat}
    (apart : start + first.length ≤ other) :
    (octets.overwrite other second).overwrite start first =
      (octets.overwrite start first).overwrite other second := by
  apply ext_octetAt
  · simp
  · intro offset
    simp only [octetAt_overwrite, length_overwrite]
    by_cases inFirst : start ≤ offset ∧ offset < start + first.length ∧ offset < octets.length
    · have notInSecond : ¬ (other ≤ offset ∧ offset < other + second.length ∧
          offset < octets.length) := by omega
      rw [if_pos inFirst, if_neg notInSecond, if_pos inFirst]
    · rw [if_neg inFirst, if_neg inFirst]

/-- Overwriting a run in the first part of a string leaves the second alone. -/
theorem overwrite_append_left {first second run : Octets} {start : Nat}
    (fits : start + run.length ≤ first.length) :
    overwrite (first ++ second) start run = first.overwrite start run ++ second := by
  have wholeFits : start + run.length ≤ (first ++ second).length := by
    rw [List.length_append]
    omega
  rw [overwrite_eq_append wholeFits, overwrite_eq_append fits,
    List.take_append_of_le_length (by omega), List.drop_append_of_le_length fits]
  simp only [List.append_assoc]

theorem overwrite_append_add (first second run : Octets) (start : Nat) :
    overwrite (first ++ second) (first.length + start) run =
      first ++ second.overwrite start run := by
  induction run generalizing second start with
  | nil => rfl
  | cons octet rest ih =>
      rw [overwrite, overwrite, List.set_append_right _ _ (Nat.le_add_right _ _),
        Nat.add_sub_cancel_left, Nat.add_assoc, ih]

theorem overwrite_overwrite {first second : Octets} (octets : Octets) (start : Nat)
    (sameLength : first.length = second.length) :
    (octets.overwrite start first).overwrite start second = octets.overwrite start second := by
  apply ext_octetAt
  · simp
  · intro offset
    simp only [octetAt_overwrite, length_overwrite, sameLength]
    split <;> rfl

/-- A run takes the place of the second part of a string if it is as long. -/
theorem overwrite_append_right {first second run : Octets}
    (sameLength : run.length = second.length) :
    overwrite (first ++ second) first.length run = first ++ run := by
  have whole : first.length + run.length = (first ++ second).length := by
    rw [List.length_append, sameLength]
  rw [overwrite_eq_append (Nat.le_of_eq whole), whole, List.drop_length, List.append_nil,
    List.take_left]

/-- The first octets of an overwritten string are overwritten themselves. -/
theorem take_overwrite (octets : Octets) (start : Nat) (run : Octets) (stop : Nat) :
    (octets.overwrite start run).take stop = overwrite (octets.take stop) start run := by
  apply ext_octetAt
  · simp
  · intro offset
    rcases Nat.lt_or_ge offset stop with before | notBefore
    · rw [octetAt_take before, octetAt_overwrite, octetAt_overwrite, octetAt_take before,
        List.length_take]
      simp only [Nat.lt_min, before, true_and]
    · rw [octetAt_of_length_le (by rw [List.length_take]; omega),
        octetAt_of_length_le (by rw [length_overwrite, List.length_take]; omega)]

end Octets

theorem MacAddress.readAt_congr {first second : Octets} {offset other : Nat}
    (octetsEq : ∀ step < 6, first.octetAt (offset + step) = second.octetAt (other + step)) :
    MacAddress.readAt first offset = MacAddress.readAt second other := by
  have atZero := octetsEq 0 (by decide)
  have atOne := octetsEq 1 (by decide)
  have atTwo := octetsEq 2 (by decide)
  have atThree := octetsEq 3 (by decide)
  have atFour := octetsEq 4 (by decide)
  have atFive := octetsEq 5 (by decide)
  simp only [Nat.add_zero] at atZero
  simp only [MacAddress.readAt, atZero, atOne, atTwo, atThree, atFour, atFive]

theorem Ipv4Address.readAt_congr {first second : Octets} {offset other : Nat}
    (octetsEq : ∀ step < 4, first.octetAt (offset + step) = second.octetAt (other + step)) :
    Ipv4Address.readAt first offset = Ipv4Address.readAt second other := by
  have atZero := octetsEq 0 (by decide)
  have atOne := octetsEq 1 (by decide)
  have atTwo := octetsEq 2 (by decide)
  have atThree := octetsEq 3 (by decide)
  simp only [Nat.add_zero] at atZero
  simp only [Ipv4Address.readAt, atZero, atOne, atTwo, atThree]

namespace EthernetFrame

section Assemble

variable (destination source : MacAddress) (payloadType : UInt16) (payload : Octets)

@[simp]
theorem destination_assemble :
    (EthernetFrame.mk (assemble destination source payloadType payload)).destination =
      destination :=
  rfl

@[simp]
theorem source_assemble :
    (EthernetFrame.mk (assemble destination source payloadType payload)).source = source :=
  rfl

@[simp]
theorem payloadType_assemble :
    (EthernetFrame.mk (assemble destination source payloadType payload)).payloadType =
      payloadType :=
  Octets.word_ofWord payloadType

@[simp]
theorem payload_assemble :
    (EthernetFrame.mk (assemble destination source payloadType payload)).payload = payload :=
  rfl

variable (address : MacAddress) (value : UInt16)

theorem setDestination_assemble :
    (EthernetFrame.mk (assemble destination source payloadType payload)).setDestination address =
      ⟨assemble address source payloadType payload⟩ :=
  rfl

theorem setSource_assemble :
    (EthernetFrame.mk (assemble destination source payloadType payload)).setSource address =
      ⟨assemble destination address payloadType payload⟩ :=
  rfl

theorem setPayloadType_assemble :
    (EthernetFrame.mk (assemble destination source payloadType payload)).setPayloadType value =
      ⟨assemble destination source value payload⟩ :=
  rfl

theorem overwrite_assemble {run : Octets} (sameLength : run.length = payload.length) :
    (assemble destination source payloadType payload).overwrite headerLength run =
      assemble destination source payloadType run := by
  have headLength : (destination.toOctets ++ source.toOctets ++
      Octets.ofWord payloadType).length = headerLength :=
    rfl
  rw [assemble, ← headLength, Octets.overwrite_append_right sameLength, assemble]

end Assemble

/-- A frame is made up of its fields. -/
theorem assemble_fields {frame : EthernetFrame} (long : headerLength ≤ frame.octets.length) :
    assemble frame.destination frame.source frame.payloadType frame.payload =
      frame.octets := by
  obtain ⟨octets⟩ := frame
  match octets, long with
  | _ :: _ :: _ :: _ :: _ :: _ :: _ :: _ :: _ :: _ :: _ :: _ :: _ :: _ :: _, _ =>
    simp only [assemble, payloadType, Octets.wordAt, Octets.ofWord_word]
    rfl

/-- With both of its addresses set, a frame still has its type and payload. -/
theorem setDestination_setSource {frame : EthernetFrame}
    (long : headerLength ≤ frame.octets.length) (destination source : MacAddress) :
    (frame.setSource source).setDestination destination =
      ⟨assemble destination source frame.payloadType frame.payload⟩ := by
  calc
    (frame.setSource source).setDestination destination =
        ((EthernetFrame.mk (assemble frame.destination frame.source frame.payloadType
          frame.payload)).setSource source).setDestination destination := by
      rw [assemble_fields long]
    _ = ⟨assemble destination source frame.payloadType frame.payload⟩ := by
      rw [setSource_assemble, setDestination_assemble]

theorem take_octets {frame : EthernetFrame} (long : headerLength ≤ frame.octets.length)
    (length : Nat) :
    frame.octets.take (headerLength + length) =
      assemble frame.destination frame.source frame.payloadType (frame.payload.take length) := by
  have headLength : (frame.destination.toOctets ++ frame.source.toOctets ++
      Octets.ofWord frame.payloadType).length = headerLength :=
    rfl
  calc
    frame.octets.take (headerLength + length) =
        (assemble frame.destination frame.source frame.payloadType frame.payload).take
          (headerLength + length) := by
      rw [assemble_fields long]
    _ = assemble frame.destination frame.source frame.payloadType
        (frame.payload.take length) := by
      rw [assemble, ← headLength, List.take_length_add_append, assemble]

end EthernetFrame

end Ipv4Router
