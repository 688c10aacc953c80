import Ipv4Router.Reception
import Ipv4Router.Proofs.FilledChecksums
import Mathlib.Data.Nat.Bitwise

/-!
# Corrupted words

A change of one word moves the sum of the words by less than `65535`, or by just that much if
`0` becomes `0xFFFF` or the reverse.  Any other change of a word of a string that holds its
checksum therefore leaves a sum that is no multiple of `65535`.  A change of a single octet, and
of a single bit, is never of the exceptional kind.

The checksum of an IPv4 packet covers as much as the header length tells.  While the header
length stays, a packet with a corrupted header is refused, if not for its version or total
length, then for its checksum; and a frame that carries such octets is dropped.
-/

namespace Ipv4Router

/-- Two words count differently in a ones' complement sum, in which `0` and `0xFFFF` count the
same. -/
def CountsOtherwise (former latter : UInt16) : Prop :=
  former ≠ latter ∧ ¬ (former = 0 ∧ latter = 0xFFFF) ∧ ¬ (former = 0xFFFF ∧ latter = 0)

instance (former latter : UInt16) : Decidable (CountsOtherwise former latter) :=
  inferInstanceAs (Decidable (_ ∧ _))

theorem countsOtherwise_iff {former latter : UInt16} :
    CountsOtherwise former latter ↔ former.toNat % 65535 ≠ latter.toNat % 65535 := by
  have formerBound := former.toNat_lt
  have latterBound := latter.toNat_lt
  have full : (0xFFFF : UInt16).toNat = 65535 := rfl
  simp only [CountsOtherwise, ne_eq, ← UInt16.toNat_inj, UInt16.toNat_zero, full]
  omega

/-- Replacing an octet changes the sum by the difference of the two octets, which counts in full
or `256` times. -/
theorem wordSum_set {octets : Octets} {offset : Nat} (value : UInt8)
    (inside : offset < octets.length) :
    wordSum (octets.set offset value) +
        (octets.octetAt offset).toNat * (if offset % 2 = 0 then 256 else 1) =
      wordSum octets + value.toNat * (if offset % 2 = 0 then 256 else 1) := by
  induction octets using wordSum.induct generalizing offset with
  | case1 => cases inside
  | case2 last =>
      obtain rfl : offset = 0 := Nat.lt_one_iff.mp inside
      simp [wordSum, Octets.octetAt, Nat.add_comm]
  | case3 high low rest ih =>
      -- an octet of the first word, high or low, or of a word behind it
      rcases offset with _ | _ | further
      · have replaced : Octets.octetAt (high :: low :: rest) 0 = high := rfl
        simp only [List.set_cons_zero, wordSum, replaced, Nat.zero_mod, if_true]
        omega
      · have replaced : Octets.octetAt (high :: low :: rest) 1 = low := rfl
        have odd : ¬ 1 % 2 = 0 := by decide
        simp only [List.set_cons_succ, List.set_cons_zero, wordSum, Nat.zero_add, replaced,
          if_neg odd]
        omega
      · have sum := @ih further (by simpa using inside)
        have shifted : Octets.octetAt (high :: low :: rest) (further + 2) =
            Octets.octetAt rest further := rfl
        have sameParity : (further + 2) % 2 = further % 2 := Nat.add_mod_right further 2
        simp only [List.set_cons_succ, wordSum, shifted, sameParity]
        omega

section Intact

variable {octets : Octets} {offset : Nat} (short : octets.length ≤ 131074)
  (intact : internetChecksum octets = 0)
include short intact

/-- A word with another value is noticed unless it counts the same. -/
theorem internetChecksum_setWord_ne_zero {value : UInt16} (even : offset % 2 = 0)
    (fits : offset + 2 ≤ octets.length)
    (otherwise : CountsOtherwise (octets.wordAt offset) value) :
    internetChecksum (octets.setWord offset value) ≠ 0 := by
  intro stillIntact
  have former := (internetChecksum_eq_zero_iff short).mp intact
  have latter := (internetChecksum_eq_zero_iff
    (by rw [Octets.length_setWord]; exact short)).mp stillIntact
  have sum := wordSum_setWord value even fits
  have formerBound := (octets.wordAt offset).toNat_lt
  have latterBound := value.toNat_lt
  rw [countsOtherwise_iff] at otherwise
  omega

theorem internetChecksum_setOctet_ne_zero {value : UInt8} (inside : offset < octets.length)
    (other : value ≠ octets.octetAt offset) :
    internetChecksum (octets.setOctet offset value) ≠ 0 := by
  intro stillIntact
  have former := (internetChecksum_eq_zero_iff short).mp intact
  have latter := (internetChecksum_eq_zero_iff
    (by rw [Octets.length_setOctet]; exact short)).mp stillIntact
  have sum : wordSum (octets.setOctet offset value) + _ = _ := wordSum_set value inside
  have formerBound := (octets.octetAt offset).toNat_lt
  have latterBound := value.toNat_lt
  have otherNat : value.toNat ≠ (octets.octetAt offset).toNat :=
    fun same => other (UInt8.toNat_inj.mp same)
  split at sum <;> omega

end Intact

/-- Flip a bit of the octet at an offset; position zero is the lowest. -/
def Octets.flipBit (octets : Octets) (offset : Nat) (position : Fin 8) : Octets :=
  octets.setOctet offset (octets.octetAt offset ^^^ UInt8.ofNat (2 ^ position.val))

theorem xor_bit_ne (octet : UInt8) (position : Fin 8) :
    octet ^^^ UInt8.ofNat (2 ^ position.val) ≠ octet := by
  have nonzero : ∀ any : Fin 8, UInt8.ofNat (2 ^ any.val) ≠ 0 := by decide
  intro same
  exact nonzero position (UInt8.xor_right_inj octet |>.mp (same.trans UInt8.xor_zero.symm))

/-- A bit of the upper half of an octet does not reach the lower half. -/
theorem xor_bit_mod (octet : UInt8) {position : Fin 8} (upper : 4 ≤ position.val) :
    (octet ^^^ UInt8.ofNat (2 ^ position.val)) % 16 = octet % 16 := by
  have multiple : ∀ any : Fin 8, 4 ≤ any.val →
      (UInt8.ofNat (2 ^ any.val)).toNat % 2 ^ 4 = 0 := by decide
  apply UInt8.toNat_inj.mp
  have lower := Nat.xor_mod_two_pow (a := octet.toNat)
    (b := (UInt8.ofNat (2 ^ position.val)).toNat) (n := 4)
  rw [multiple position upper, Nat.xor_zero] at lower
  rw [UInt8.toNat_mod, UInt8.toNat_xor, UInt8.toNat_mod]
  exact lower

namespace Ipv4Packet

/-- The octets of a packet after a change in its header that keeps the header length: a word
counts differently, or a bit has flipped. -/
inductive Corrupts (packet : Ipv4Packet) : Octets → Prop
  | word {offset : Nat} {value : UInt16} (even : offset % 2 = 0)
      (inside : offset + 2 ≤ packet.headerLength)
      (otherwise : CountsOtherwise (packet.octets.wordAt offset) value)
      (sameLength : (Ipv4Packet.mk (packet.octets.setWord offset value)).headerLength =
        packet.headerLength) :
      Corrupts packet (packet.octets.setWord offset value)
  | bit {offset : Nat} {position : Fin 8} (inside : offset < packet.headerLength)
      (notLength : offset = 0 → 4 ≤ position.val) :
      Corrupts packet (packet.octets.flipBit offset position)

/-- The octets cannot be seen as a packet, or its checksum does not match. -/
def Refused (octets : Octets) : Prop :=
  (∃ fault, ofOctets octets = .error fault) ∨
    ∃ packet, ofOctets octets = .ok packet ∧ packet.verifyChecksum = .error .badChecksum

variable {packet : Ipv4Packet}

theorem refused_of_header {octets : Octets}
    (noticed : internetChecksum (Ipv4Packet.mk octets).header ≠ 0) : Refused octets := by
  cases read : ofOctets octets with
  | error fault => exact Or.inl ⟨fault, read⟩
  | ok packet =>
      obtain ⟨-, -, -, -, -, rfl⟩ := ofOctets_eq_ok_iff.mp read
      exact Or.inr ⟨_, read, if_neg noticed⟩

theorem headerLength_flipBit {offset : Nat} {position : Fin 8}
    (notLength : offset = 0 → 4 ≤ position.val) (nonempty : 0 < packet.octets.length) :
    (Ipv4Packet.mk (packet.octets.flipBit offset position)).headerLength =
      packet.headerLength := by
  simp only [headerLength, Octets.flipBit]
  rcases Nat.eq_zero_or_pos offset with rfl | behind
  · rw [Octets.octetAt_setOctet _ nonempty, xor_bit_mod _ (notLength rfl)]
  · rw [Octets.setOctet, Octets.octetAt_overwrite_of_lt behind]

theorem Corrupts.refused {changed : Octets} (corrupts : packet.Corrupts changed)
    (read : ofOctets packet.octets = .ok packet) (intact : packet.verifyChecksum = .ok ()) :
    Refused changed := by
  obtain ⟨long, -, -, ordered, total, -⟩ := ofOctets_eq_ok_iff.mp read
  have headerBound := packet.headerLength_le
  have headerLength : packet.header.length = packet.headerLength := by
    rw [header, List.length_take]
    omega
  have short : packet.header.length ≤ 131074 := by omega
  have matching : internetChecksum packet.header = 0 := verifyChecksum_eq_ok_iff.mp intact
  apply refused_of_header
  cases corrupts with
  | @word offset value even inside otherwise sameLength =>
      have sameWord : packet.header.wordAt offset = packet.octets.wordAt offset := by
        simp only [Octets.wordAt, header]
        rw [Octets.octetAt_take (by omega), Octets.octetAt_take (by omega)]
      rw [← sameWord] at otherwise
      rw [← headerLength] at inside
      rw [header, sameLength, Octets.setWord, Octets.take_overwrite]
      exact internetChecksum_setWord_ne_zero short matching even inside otherwise
  | @bit offset position inside notLength =>
      have sameOctet : packet.header.octetAt offset = packet.octets.octetAt offset :=
        Octets.octetAt_take inside
      have nonempty : 0 < packet.octets.length := Nat.lt_of_lt_of_le (by decide) long
      have other : packet.octets.octetAt offset ^^^ UInt8.ofNat (2 ^ position.val) ≠
          packet.header.octetAt offset := by
        rw [sameOctet]
        exact xor_bit_ne _ _
      rw [← headerLength] at inside
      rw [header, headerLength_flipBit notLength nonempty, Octets.flipBit, Octets.setOctet,
        Octets.take_overwrite]
      exact internetChecksum_setOctet_ne_zero short matching inside other

end Ipv4Packet

namespace IcmpPacket

/-- The octets of a packet after one of its words has come to count differently, or after its
last octet has changed, if there is an odd number of them. -/
inductive Corrupts (packet : IcmpPacket) : Octets → Prop
  | word {offset : Nat} {value : UInt16} (even : offset % 2 = 0)
      (inside : offset + 2 ≤ packet.octets.length)
      (otherwise : CountsOtherwise (packet.octets.wordAt offset) value) :
      Corrupts packet (packet.octets.setWord offset value)
  | last {offset : Nat} {value : UInt8} (even : offset % 2 = 0)
      (isLast : offset + 1 = packet.octets.length)
      (other : value ≠ packet.octets.octetAt offset) :
      Corrupts packet (packet.octets.setOctet offset value)

theorem Corrupts.verifyChecksum_eq {packet : IcmpPacket} {changed : Octets}
    (corrupts : packet.Corrupts changed) (read : ofOctets packet.octets = .ok packet)
    (intact : packet.verifyChecksum = .ok ()) :
    (IcmpPacket.mk changed).verifyChecksum = .error .badChecksum := by
  have short : packet.octets.length ≤ 131074 := by
    unfold ofOctets at read
    split at read
    · cases read
    split at read
    · cases read
    next notTooLong => exact Nat.le_trans (Nat.le_of_not_lt notTooLong) (by decide)
  have matching : internetChecksum packet.octets = 0 := verifyChecksum_eq_ok_iff.mp intact
  apply if_neg
  cases corrupts with
  | word even inside otherwise =>
      exact internetChecksum_setWord_ne_zero short matching even inside otherwise
  | last even isLast other =>
      exact internetChecksum_setOctet_ne_zero short matching (Nat.le_of_eq isLast) other

end IcmpPacket

namespace Router

theorem dispatch_of_refused (router : Router) (identification : UInt16) (arrival : Interface)
    {frame : Octets} (refused : Ipv4Packet.Refused (EthernetFrame.mk frame).payload) :
    ∃ fault, router.dispatch identification arrival frame = .error (.packet fault) := by
  cases accepted : EthernetFrame.ofOctets frame with
  | error fault =>
      have unreadable : Ipv4Packet.ofFrame frame = .error fault := by
        simp only [Ipv4Packet.ofFrame, accepted]
      exact ⟨fault, by simp only [dispatch, unreadable]⟩
  | ok ethernet =>
      obtain ⟨-, -, rfl⟩ := EthernetFrame.ofOctets_eq_ok_iff.mp accepted
      have ofFrame : Ipv4Packet.ofFrame frame =
          Ipv4Packet.ofOctets (EthernetFrame.mk frame).payload := by
        simp only [Ipv4Packet.ofFrame, accepted]
      rcases refused with ⟨fault, unreadable⟩ | ⟨packet, readable, broken⟩
      · exact ⟨fault, by simp only [dispatch, ofFrame, unreadable]⟩
      · exact ⟨.badChecksum, by simp only [dispatch, ofFrame, readable, broken]⟩

/-- If the header of an intact packet is corrupted in one word, but not in its length, the packet
is refused, and a frame that carries it is dropped without a trace.  The checksum of an intact
ICMP packet does not match any more after one of its words was corrupted.  The only words that
may be taken for each other are `0` and `0xFFFF`. -/
theorem corrupted_words_refused :
    (∀ packet : Ipv4Packet, Ipv4Packet.ofOctets packet.octets = .ok packet →
      packet.verifyChecksum = .ok () → ∀ changed, packet.Corrupts changed →
        Ipv4Packet.Refused changed ∧
        ∀ (router : Router) (environment : Environment) (turn : Turn) (arrival : Interface)
          (frame : Octets), (EthernetFrame.mk frame).payload = changed →
            ∃ fault, router.receiveDatagram environment turn arrival frame =
              (turn, .error (.packet fault))) ∧
    ∀ packet : IcmpPacket, IcmpPacket.ofOctets packet.octets = .ok packet →
      packet.verifyChecksum = .ok () → ∀ changed, packet.Corrupts changed →
        (IcmpPacket.mk changed).verifyChecksum = .error .badChecksum := by
  refine ⟨?_, fun packet read intact changed corrupts => corrupts.verifyChecksum_eq read intact⟩
  intro packet read intact changed corrupts
  have refused := corrupts.refused read intact
  refine ⟨refused, ?_⟩
  intro router environment turn arrival frame carries
  obtain ⟨fault, dropped⟩ := dispatch_of_refused router
    (environment.identification turn.journal.length) arrival (carries ▸ refused)
  exact ⟨fault, by simp only [receiveDatagram, submit, submitAs, dropped]⟩

/-- A header with options and the checksum `0xFFFF` is refused with another total length, and
dropped with a bit of its version or of an option flipped.  With the checksum `0` it would pass.
An echo reply of an odd length is refused with another last octet. -/
theorem corrupted_words_refused_options :
    let packet : Ipv4Packet := ⟨[0x46, 0, 0, 28, 0x60, 0xC3, 0, 0, 64, 17, 0xFF, 0xFF,
      10, 0, 0, 7, 10, 2, 3, 4, 1, 1, 1, 1, 0xCA, 0xFE, 0xBA, 0xBE]⟩
    let reply := IcmpPacket.ofMessage (.echoReply 7 1) [1, 2, 3]
    let lan : Interface := ⟨"lan", ⟨2, 0, 0, 0, 0, 1⟩, ⟨10, 0, 0, 1⟩⟩
    let router : Router := ⟨⟨[lan], by decide⟩, .empty, {}⟩
    let receive := fun (environment : Environment) (datagram : Octets) =>
      router.receiveDatagram environment (Turn.start .initial) lan
        (EthernetFrame.assemble lan.mac ⟨2, 0, 0, 0, 0, 7⟩ EthernetFrame.ipv4Type datagram)
    Ipv4Packet.Refused (packet.octets.setWord 2 24) ∧
    (∀ environment, ∃ fault, receive environment (packet.octets.flipBit 0 7) =
      (Turn.start .initial, .error (.packet fault))) ∧
    (∀ environment, ∃ fault, receive environment (packet.octets.flipBit 22 3) =
      (Turn.start .initial, .error (.packet fault))) ∧
    (Ipv4Packet.mk (packet.octets.setWord 10 0)).verifyChecksum = .ok () ∧
    (IcmpPacket.mk (reply.octets.setOctet 10 4)).verifyChecksum = .error .badChecksum := by
  intro packet reply lan router receive
  obtain ⟨headers, messages⟩ := corrupted_words_refused
  have read : Ipv4Packet.ofOctets packet.octets = .ok packet :=
    Ipv4Packet.ofOctets_eq_ok_iff.mpr (by decide +kernel)
  have refused := headers packet read (Ipv4Packet.verifyChecksum_eq_ok_iff.mpr (by decide +kernel))
  have noticed := messages reply rfl (IcmpPacket.verifyChecksum_eq_ok_iff.mpr (by decide +kernel))
  refine ⟨(refused _ (.word (by decide) (by decide) (by decide) (by decide))).1, ?_, ?_,
    Ipv4Packet.verifyChecksum_eq_ok_iff.mpr (by decide +kernel),
    noticed _ (.last (by decide) (by decide) (by decide))⟩
  · intro environment
    exact (refused _ (.bit (by decide) (by decide))).2 router environment _ lan _ rfl
  · intro environment
    exact (refused _ (.bit (by decide) (by decide))).2 router environment _ lan _ rfl

end Router

end Ipv4Router
