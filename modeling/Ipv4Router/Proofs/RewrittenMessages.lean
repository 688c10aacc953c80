import Ipv4Router.Proofs.FilledChecksums
import Ipv4Router.Proofs.WrittenPackets

/-!
# Messages written again

A message that is written over the header of a packet is read back, and the data of the packet
stay.  In the other direction, a message that was read from an intact packet is written over the
header from which it came.  Type and code are then as they were.

For an echo message the two words behind the checksum are so too, and the only question is what
the checksum becomes.  The words of an intact packet add up to a multiple of `65535`, so the
residue of the checksum is fixed by the other words.  The residue zero belongs to the two words
`0` and `0xFFFF`.  Filling the field chooses `0xFFFF` if all other words are zero and `0` if not,
whereas an intact packet may hold `0xFFFF` in the second case too.

An error message has no use for the two words, and they become zero.
-/

namespace Ipv4Router

/-- Echo messages use the two words behind the checksum. -/
def IcmpMessage.IsEcho : IcmpMessage → Prop
  | echoReply _ _ | echoRequest _ _ => True
  | netUnreachable | hostUnreachable | portUnreachable | timeExceeded => False

namespace Octets

variable {octets : Octets} {offset : Nat}

theorem setOctet_octetAt (octets : Octets) (offset : Nat) :
    octets.setOctet offset (octets.octetAt offset) = octets := by
  apply ext_octetAt (length_setOctet ..)
  intro other
  rw [setOctet, octetAt_overwrite]
  split
  next inside =>
    obtain rfl : other = offset := by
      simp only [List.length_singleton] at inside
      omega
    rw [Nat.sub_self]
    rfl
  next outside => rfl

theorem setWord_wordAt (fits : offset + 2 ≤ octets.length) :
    octets.setWord offset (octets.wordAt offset) = octets := by
  rw [setWord, overwrite_eq_append (by simpa using fits), List.append_assoc, length_ofWord,
    ← drop_eq_ofWord_append fits, List.take_append_drop]

theorem forall_mem_eq_zero_iff :
    (∀ octet ∈ octets, octet = 0) ↔ ∀ offset, octets.octetAt offset = 0 := by
  constructor
  · intro zeros offset
    rcases Nat.lt_or_ge offset octets.length with inside | past
    · rw [octetAt, List.getD_eq_getElem _ _ inside]
      exact zeros _ (List.getElem_mem inside)
    · exact octetAt_of_length_le past
  · intro zeros octet member
    obtain ⟨offset, inside, rfl⟩ := List.mem_iff_getElem.mp member
    rw [← List.getD_eq_getElem octets 0 inside]
    exact zeros offset

/-- A string whose word at some place is cleared holds zeros only if it does so elsewhere. -/
theorem forall_mem_setWord_zero_iff (fits : offset + 2 ≤ octets.length) :
    (∀ octet ∈ octets.setWord offset 0, octet = 0) ↔
      ∀ other, other ≠ offset → other ≠ offset + 1 → octets.octetAt other = 0 := by
  rw [forall_mem_eq_zero_iff]
  constructor
  · intro zeros other notHigh notLow
    rw [← octetAt_setWord_of_ne 0 notHigh notLow]
    exact zeros other
  · intro zeros other
    by_cases elsewhere : other ≠ offset ∧ other ≠ offset + 1
    · rw [octetAt_setWord_of_ne 0 elsewhere.1 elsewhere.2]
      exact zeros other elsewhere.1 elsewhere.2
    · obtain ⟨step, small, rfl⟩ : ∃ step < 2, other = offset + step :=
        ⟨other - offset, by omega, by omega⟩
      have cleared : (octets.setWord offset 0).octetAt (offset + step) =
          (ofWord 0).octetAt step :=
        octetAt_overwrite_of_fits fits small
      rw [cleared]
      have firstOrSecond : step = 0 ∨ step = 1 := by omega
      rcases firstOrSecond with rfl | rfl <;> rfl

end Octets

/-- Filling the field of a string that holds its checksum gives back the word that was there,
but of the two words with residue zero it gives back the one that filling chooses. -/
theorem internetChecksum_cleared {octets : Octets} {offset : Nat}
    (intact : internetChecksum octets = 0) (even : offset % 2 = 0)
    (fits : offset + 2 ≤ octets.length) (short : octets.length ≤ 131074) :
    internetChecksum (octets.setWord offset 0) =
      if octets.wordAt offset = 0xFFFF ∧ 0 < wordSum (octets.setWord offset 0) then 0
      else octets.wordAt offset := by
  have matching := (internetChecksum_eq_zero_iff short).mp intact
  have cleared := wordSum_setWord 0 even fits
  have clearedShort : (octets.setWord offset 0).length ≤ 131074 := by simpa using short
  have sum := toNat_onesComplementSum clearedShort
  have bound := (onesComplementSum (octets.setWord offset 0)).toNat_lt
  have fieldBound := (octets.wordAt offset).toNat_lt
  rw [UInt16.toNat_zero] at cleared
  apply UInt16.toNat_inj.mp
  rw [toNat_internetChecksum]
  split
  next negativeZero =>
    have field : (octets.wordAt offset).toNat = 65535 := by
      rw [negativeZero.1]
      rfl
    rw [UInt16.toNat_zero]
    omega
  next otherwise =>
    have field : (octets.wordAt offset).toNat = 65535 →
        wordSum (octets.setWord offset 0) = 0 := by
      intro fieldEq
      exact Nat.eq_zero_of_not_pos
        (fun positive => otherwise ⟨UInt16.toNat_inj.mp fieldEq, positive⟩)
    omega

namespace IcmpPacket

variable {packet : IcmpPacket} {message : IcmpMessage}

/-- The checksum is `0xFFFF` although something else in the packet is not zero. -/
def HasNegativeZero (packet : IcmpPacket) : Prop :=
  packet.checksum = 0xFFFF ∧
    ∃ offset, offset ≠ 2 ∧ offset ≠ 3 ∧ packet.octets.octetAt offset ≠ 0

theorem fillChecksum_of_intact (intact : packet.verifyChecksum = .ok ())
    (long : headerLength ≤ packet.octets.length)
    (short : packet.octets.length ≤ maximumLength) :
    (packet.HasNegativeZero → packet.fillChecksum = packet.setChecksum 0) ∧
      (¬ packet.HasNegativeZero → packet.fillChecksum = packet) := by
  have fits : 2 + 2 ≤ packet.octets.length := Nat.le_trans (by decide) long
  have refilled := internetChecksum_cleared (verifyChecksum_eq_ok_iff.mp intact)
    (by decide : 2 % 2 = 0) fits (Nat.le_trans short (by decide))
  have negativeZeroIff : packet.HasNegativeZero ↔
      packet.octets.wordAt 2 = 0xFFFF ∧ 0 < wordSum (packet.octets.setWord 2 0) := by
    rw [Nat.pos_iff_ne_zero, ne_eq, wordSum_eq_zero_iff, Octets.forall_mem_setWord_zero_iff fits]
    simp only [not_forall, exists_prop]
    rfl
  rw [fillChecksum_eq, computedChecksum]
  simp only [setChecksum]
  rw [refilled, negativeZeroIff]
  constructor
  · intro negativeZero
    rw [if_pos negativeZero]
  · intro otherwise
    rw [if_neg otherwise, Octets.setWord_wordAt fits]

theorem codes_of_message (read : packet.message = .ok message) :
    packet.typeCode = message.typeCode ∧ packet.code = message.code := by
  rw [IcmpPacket.message] at read
  split at read <;> cases read <;> exact ⟨‹_›, ‹_›⟩

theorem words_of_echo (read : packet.message = .ok message) (echo : message.IsEcho) :
    packet.identifier = message.identifier ∧
      packet.sequenceNumber = message.sequenceNumber := by
  rw [IcmpPacket.message] at read
  cases message with
  | echoReply identifier sequenceNumber =>
      split at read <;> cases read
      exact ⟨rfl, rfl⟩
  | echoRequest identifier sequenceNumber =>
      split at read <;> cases read
      exact ⟨rfl, rfl⟩
  | netUnreachable | hostUnreachable | portUnreachable | timeExceeded => exact echo.elim

theorem message_of_reply {identifier sequenceNumber : UInt16}
    (fields : packet.typeCode = 0 ∧ packet.code = 0 ∧ packet.identifier = identifier ∧
      packet.sequenceNumber = sequenceNumber) :
    packet.message = .ok (.echoReply identifier sequenceNumber) := by
  obtain ⟨typeEq, codeEq, rfl, rfl⟩ := fields
  rw [IcmpPacket.message, typeEq, codeEq]
  rfl

theorem words_of_not_echo (failure : ¬ message.IsEcho) :
    message.identifier = 0 ∧ message.sequenceNumber = 0 := by
  cases message with
  | echoReply | echoRequest => exact absurd trivial failure
  | netUnreachable | hostUnreachable | portUnreachable | timeExceeded => exact ⟨rfl, rfl⟩

/-- Where a message was read, writing it changes at most the words and the checksum. -/
theorem setMessage_of_read (read : packet.message = .ok message) :
    packet.setMessage message =
      ((packet.setIdentifier message.identifier).setSequenceNumber
        message.sequenceNumber).fillChecksum := by
  obtain ⟨typeEq, codeEq⟩ := codes_of_message read
  have sameType : packet.setTypeCode message.typeCode = packet := by
    rw [← typeEq, setTypeCode, typeCode, Octets.setOctet_octetAt]
  have sameCode : packet.setCode message.code = packet := by
    rw [← codeEq, setCode, code, Octets.setOctet_octetAt]
  rw [setMessage, sameType, sameCode]

theorem setMessage_of_echo (long : headerLength ≤ packet.octets.length)
    (read : packet.message = .ok message) (echo : message.IsEcho) :
    packet.setMessage message = packet.fillChecksum := by
  obtain ⟨identifierEq, sequenceEq⟩ := words_of_echo read echo
  have sameIdentifier : packet.setIdentifier message.identifier = packet := by
    rw [← identifierEq, setIdentifier, identifier,
      Octets.setWord_wordAt (Nat.le_trans (by decide) long)]
  have sameSequence : packet.setSequenceNumber message.sequenceNumber = packet := by
    rw [← sequenceEq, setSequenceNumber, sequenceNumber, Octets.setWord_wordAt long]
  rw [setMessage_of_read read, sameIdentifier, sameSequence]

theorem setMessage_of_not_echo (read : packet.message = .ok message)
    (failure : ¬ message.IsEcho) :
    packet.setMessage message =
      (IcmpPacket.mk (packet.octets.overwrite 4 [0, 0, 0, 0])).fillChecksum := by
  obtain ⟨identifierEq, sequenceEq⟩ := words_of_not_echo failure
  have bothWords : (packet.octets.setWord 4 0).setWord 6 0 =
      packet.octets.overwrite 4 [0, 0, 0, 0] :=
    (Octets.overwrite_append packet.octets 4 (Octets.ofWord 0) (Octets.ofWord 0)).symm
  rw [setMessage_of_read read, identifierEq, sequenceEq, ← bothWords]
  rfl

/-- A message that is written over the header of a packet is read back from it, with a checksum
that matches, and the data stay.

A message that was read from an intact packet and is written back into it leaves type, code and
data as they were.  If it is an echo message, nothing changes at all, except that a checksum of
`0xFFFF` becomes zero unless everything else in the packet is zero.  If it is an error message,
the two unused words become zero and the checksum is filled anew. -/
theorem written_messages_read_back :
    (∀ (message : IcmpMessage) (octets : Octets), headerLength ≤ octets.length →
      octets.length ≤ maximumLength →
        ((IcmpPacket.mk octets).setMessage message).verifyChecksum = .ok () ∧
        ((IcmpPacket.mk octets).setMessage message).message = .ok message ∧
        ((IcmpPacket.mk octets).setMessage message).octets.length = octets.length ∧
        ((IcmpPacket.mk octets).setMessage message).octets.drop 8 = octets.drop 8) ∧
    ∀ (octets : Octets) (packet : IcmpPacket) (message : IcmpMessage),
      ofOctets octets = .ok packet → packet.verifyChecksum = .ok () →
      packet.message = .ok message →
        (packet.setMessage message).typeCode = packet.typeCode ∧
        (packet.setMessage message).code = packet.code ∧
        (packet.setMessage message).data = packet.data ∧
        (message.IsEcho →
          (packet.HasNegativeZero →
            (packet.setMessage message).octets = octets.setWord 2 0) ∧
          (¬ packet.HasNegativeZero → (packet.setMessage message).octets = octets)) ∧
        (¬ message.IsEcho → packet.setMessage message =
          (IcmpPacket.mk (octets.overwrite 4 [0, 0, 0, 0])).fillChecksum) := by
  constructor
  · intro message octets long short
    exact ⟨verifyChecksum_setMessage message long (Nat.le_trans short (by decide)),
      message_setMessage message long, length_setMessage ⟨octets⟩ message,
      data_setMessage message long⟩
  · intro octets packet message accepted intact read
    obtain ⟨long, short, rfl⟩ := ofOctets_eq_ok_iff.mp accepted
    obtain ⟨typeEq, codeEq⟩ := codes_of_message read
    obtain ⟨typeAgain, codeAgain⟩ := codes_of_message (message_setMessage message long)
    obtain ⟨negativeZero, otherwise⟩ := fillChecksum_of_intact intact long short
    refine ⟨typeAgain.trans typeEq.symm, codeAgain.trans codeEq.symm,
      data_setMessage message long, ?_, setMessage_of_not_echo read⟩
    intro echo
    rw [setMessage_of_echo long read echo]
    exact ⟨fun holds => congrArg IcmpPacket.octets (negativeZero holds),
      fun fails => congrArg IcmpPacket.octets (otherwise fails)⟩

/-- An echo reply with a checksum of `0xFFFF` is changed, unless it is zero elsewhere, and an error
message loses what stood in its unused words. -/
theorem written_messages_read_back_negative_zero :
    let reply : Octets := [0, 0, 0xFF, 0xFF, 0xFF, 0xFF, 0, 0]
    let empty : Octets := [0, 0, 0xFF, 0xFF, 0, 0, 0, 0]
    let failure : Octets := [3, 1, 0xEA, 0xCA, 0x12, 0x34, 0, 0, 0, 0]
    ((IcmpPacket.mk reply).setMessage (.echoReply 0xFFFF 0)).octets =
      [0, 0, 0, 0, 0xFF, 0xFF, 0, 0] ∧
    ((IcmpPacket.mk empty).setMessage (.echoReply 0 0)).octets = empty ∧
    ((IcmpPacket.mk failure).setMessage .hostUnreachable).octets =
      [3, 1, 0xFC, 0xFE, 0, 0, 0, 0, 0, 0] ∧
    ((IcmpPacket.mk failure).setMessage (.echoRequest 7 1)).message =
      .ok (.echoRequest 7 1) := by
  intro reply empty failure
  obtain ⟨writes, rewrites⟩ := written_messages_read_back
  refine ⟨?_, ?_, ?_, (writes (.echoRequest 7 1) failure (by decide) (by decide)).2.1⟩
  · have intact : (IcmpPacket.mk reply).verifyChecksum = .ok () :=
      verifyChecksum_eq_ok_iff.mpr (by decide +kernel)
    have read : (IcmpPacket.mk reply).message = .ok (.echoReply 0xFFFF 0) :=
      message_of_reply (by decide)
    obtain ⟨-, -, -, echo, -⟩ := rewrites reply _ _ rfl intact read
    exact (echo trivial).1 ⟨by decide, 4, by decide⟩
  · have intact : (IcmpPacket.mk empty).verifyChecksum = .ok () :=
      verifyChecksum_eq_ok_iff.mpr (by decide +kernel)
    have read : (IcmpPacket.mk empty).message = .ok (.echoReply 0 0) :=
      message_of_reply (by decide)
    have zeros : ∀ offset, offset ≠ 2 → offset ≠ 3 → empty.octetAt offset = 0 :=
      (Octets.forall_mem_setWord_zero_iff (by decide)).mp (by decide +kernel)
    obtain ⟨-, -, -, echo, -⟩ := rewrites empty _ _ rfl intact read
    apply (echo trivial).2
    rintro ⟨-, offset, notHigh, notLow, nonzero⟩
    exact nonzero (zeros offset notHigh notLow)
  · have intact : (IcmpPacket.mk failure).verifyChecksum = .ok () :=
      verifyChecksum_eq_ok_iff.mpr (by decide +kernel)
    have read : (IcmpPacket.mk failure).message = .ok .hostUnreachable := rfl
    obtain ⟨-, -, -, -, error⟩ := rewrites failure _ _ rfl intact read
    rw [error id]
    decide +kernel

end IcmpPacket

end Ipv4Router
