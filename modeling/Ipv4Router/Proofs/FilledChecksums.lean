import Ipv4Router.IcmpPacket
import Ipv4Router.Proofs.CheckedOctets
import Ipv4Router.Proofs.DeliverableFrames

/-!
# Filled checksums

The words of an octet string of up to `131074` octets fit the register in which they are
added, and two rounds of folding bring the register down to a word.  What comes out is the sum
of the words modulo `65535`.  Of the two words with residue zero it is `0` for a string of
zeros only and `0xFFFF` for every other string.

A string that holds its checksum is therefore one whose words are not all zero and add up to a
multiple of `65535`.  Filling in the checksum of a packet makes this true, whatever stood in the
field before, and it changes nothing else.
-/

namespace Ipv4Router

/-- Folding the carries of a register takes a number of rounds and leaves a word. -/
inductive FoldsTo : UInt32 → Nat → UInt16 → Prop
  | done {total : UInt32} (small : total ≤ 65535) : FoldsTo total 0 total.toUInt16
  | fold {total : UInt32} {rounds : Nat} {word : UInt16} (large : ¬ total ≤ 65535)
      (further : FoldsTo (foldOnce total) rounds word) : FoldsTo total (rounds + 1) word

theorem foldsTo_of_le {total : UInt32} (small : total ≤ 65535) :
    FoldsTo total 0 (foldCarries total) := by
  rw [foldCarries, if_pos small]
  exact .done small

theorem FoldsTo.step {total : UInt32} {rounds : Nat} (large : ¬ total ≤ 65535)
    (further : FoldsTo (foldOnce total) rounds (foldCarries (foldOnce total))) :
    FoldsTo total (rounds + 1) (foldCarries total) := by
  rw [foldCarries, if_neg large]
  exact .fold large further

/-- Two rounds are enough: the first leaves at most one carry, and the second has room for it. -/
theorem exists_foldsTo (total : UInt32) :
    ∃ rounds ≤ 2, FoldsTo total rounds (foldCarries total) := by
  have smallIff : ∀ register : UInt32, register ≤ 65535 ↔ register.toNat ≤ 65535 := by
    intro register
    rw [UInt32.le_iff_toNat_le]
    rfl
  have bound := total.toNat_lt
  have once := toNat_foldOnce total
  have twice := toNat_foldOnce (foldOnce total)
  by_cases small : total ≤ 65535
  · exact ⟨0, by decide, foldsTo_of_le small⟩
  by_cases smallOnce : foldOnce total ≤ 65535
  · exact ⟨1, by decide, .step small (foldsTo_of_le smallOnce)⟩
  have smallTwice : foldOnce (foldOnce total) ≤ 65535 := by
    rw [smallIff] at smallOnce ⊢
    omega
  exact ⟨2, Nat.le_refl 2, .step small (.step smallOnce (foldsTo_of_le smallTwice))⟩

theorem wordSum_eq_zero_iff {octets : Octets} :
    wordSum octets = 0 ↔ ∀ octet ∈ octets, octet = 0 := by
  have lowIff : ∀ octet : UInt8, octet.toNat = 0 ↔ octet = 0 := by
    intro octet
    rw [← UInt8.toNat_inj, UInt8.toNat_zero]
  have highIff : ∀ octet : UInt8, octet.toNat * 256 = 0 ↔ octet = 0 := by
    intro octet
    rw [← lowIff]
    omega
  induction octets using wordSum.induct with
  | case1 => simp [wordSum]
  | case2 last => simp [wordSum, highIff]
  | case3 high low rest ih => simp [wordSum, highIff, lowIff, ih, and_assoc]

/-- The words of an octet string are not all zero and add up to a multiple of `65535`. -/
def Balanced (octets : Octets) : Prop :=
  (∃ octet ∈ octets, octet ≠ 0) ∧ wordSum octets % 65535 = 0

theorem internetChecksum_eq_zero_iff_balanced {octets : Octets}
    (short : octets.length ≤ 131074) : internetChecksum octets = 0 ↔ Balanced octets := by
  have someOctet : 0 < wordSum octets ↔ ∃ octet ∈ octets, octet ≠ 0 := by
    rw [Nat.pos_iff_ne_zero, ne_eq, wordSum_eq_zero_iff]
    simp
  rw [internetChecksum_eq_zero_iff short, someOctet, Balanced]

/-- The words of an octet string are added without an overflow, and a bounded number of rounds
folds their sum to a word of the same residue. -/
structure SumsUp (octets : Octets) : Prop where
  checked : checkedInternetChecksum octets = .ok (internetChecksum octets)
  register : (accumulateWords 0 octets).toNat = wordSum octets
  folded : ∃ rounds ≤ 2, FoldsTo (accumulateWords 0 octets) rounds (onesComplementSum octets)
  residue : (onesComplementSum octets).toNat % 65535 = wordSum octets % 65535
  zero : onesComplementSum octets = 0 ↔ ∀ octet ∈ octets, octet = 0

theorem sumsUp_of_short {octets : Octets} (short : octets.length ≤ 131074) : SumsUp octets := by
  have bound := wordSum_le octets
  have sum := toNat_onesComplementSum short
  have fits : (0 : UInt32).toNat + wordSum octets < 4294967296 := by
    rw [UInt32.toNat_zero]
    omega
  exact {
    checked := checkedInternetChecksum_eq short
    register := by rw [toNat_accumulateWords fits, UInt32.toNat_zero, Nat.zero_add]
    folded := exists_foldsTo _
    residue := sum.1
    zero := by rw [← UInt16.toNat_inj, UInt16.toNat_zero, sum.2, wordSum_eq_zero_iff] }

theorem Octets.setWord_setWord (octets : Octets) (offset : Nat) (first second : UInt16) :
    (octets.setWord offset first).setWord offset second = octets.setWord offset second :=
  overwrite_overwrite octets offset ((length_ofWord first).trans (length_ofWord second).symm)

theorem Octets.octetAt_setWord_of_ne {octets : Octets} {offset other : Nat} (value : UInt16)
    (notHigh : other ≠ offset) (notLow : other ≠ offset + 1) :
    (octets.setWord offset value).octetAt other = octets.octetAt other := by
  rw [setWord, octetAt_overwrite, if_neg]
  rw [length_ofWord]
  omega

/-- What filling the checksum of a view of octets does, where the field stands at an offset. -/
structure FillsChecksum {View : Type} (octets : View → Octets)
    (verify : View → Except PacketError Unit) (fill : View → View) (offset : Nat)
    (view : View) : Prop where
  matching : verify (fill view) = .ok ()
  length : (octets (fill view)).length = (octets view).length
  elsewhere : ∀ other, other ≠ offset → other ≠ offset + 1 →
    (octets (fill view)).octetAt other = (octets view).octetAt other
  again : fill (fill view) = fill view

namespace Ipv4Packet

variable {packet : Ipv4Packet}

theorem setHeaderChecksum_setHeaderChecksum (packet : Ipv4Packet) (first second : UInt16) :
    (packet.setHeaderChecksum first).setHeaderChecksum second =
      packet.setHeaderChecksum second :=
  congrArg Ipv4Packet.mk (Octets.setWord_setWord packet.octets 10 first second)

theorem fillChecksum_eq (packet : Ipv4Packet) :
    packet.fillChecksum =
      packet.setHeaderChecksum (packet.setHeaderChecksum 0).computedChecksum :=
  setHeaderChecksum_setHeaderChecksum _ _ _

/-- What is filled in does not depend on what the field held before. -/
theorem fillChecksum_setHeaderChecksum (packet : Ipv4Packet) (value : UInt16) :
    (packet.setHeaderChecksum value).fillChecksum = packet.fillChecksum := by
  simp only [fillChecksum, setHeaderChecksum_setHeaderChecksum]

theorem fillsChecksum (minimum : minimumHeaderLength ≤ packet.headerLength)
    (whole : packet.headerLength ≤ packet.octets.length) :
    FillsChecksum octets verifyChecksum fillChecksum 10 packet where
  matching := verifyChecksum_fillChecksum minimum whole
  length := by simp only [fillChecksum, setHeaderChecksum, Octets.length_setWord]
  elsewhere := by
    intro other notHigh notLow
    rw [fillChecksum_eq]
    exact Octets.octetAt_setWord_of_ne _ notHigh notLow
  again := by rw [packet.fillChecksum_eq, fillChecksum_setHeaderChecksum, fillChecksum_eq]

theorem verifyChecksum_eq_ok_iff_balanced :
    packet.verifyChecksum = .ok () ↔ Balanced packet.header := by
  have headerBound := packet.headerLength_le
  have short : packet.header.length ≤ 131074 := by
    rw [header, List.length_take]
    omega
  rw [verifyChecksum_eq_ok_iff, computedChecksum, internetChecksum_eq_zero_iff_balanced short]

end Ipv4Packet

namespace IcmpPacket

variable {packet : IcmpPacket}

theorem setChecksum_setChecksum (packet : IcmpPacket) (first second : UInt16) :
    (packet.setChecksum first).setChecksum second = packet.setChecksum second :=
  congrArg IcmpPacket.mk (Octets.setWord_setWord packet.octets 2 first second)

theorem fillChecksum_eq (packet : IcmpPacket) :
    packet.fillChecksum = packet.setChecksum (packet.setChecksum 0).computedChecksum :=
  setChecksum_setChecksum _ _ _

theorem fillChecksum_setChecksum (packet : IcmpPacket) (value : UInt16) :
    (packet.setChecksum value).fillChecksum = packet.fillChecksum := by
  simp only [fillChecksum, setChecksum_setChecksum]

theorem verifyChecksum_eq_ok_iff :
    packet.verifyChecksum = .ok () ↔ packet.computedChecksum = 0 := by
  unfold verifyChecksum
  split <;> simp_all

theorem fillsChecksum (long : headerLength ≤ packet.octets.length)
    (short : packet.octets.length ≤ maximumLength) :
    FillsChecksum octets verifyChecksum fillChecksum 2 packet where
  matching := by
    simp only [headerLength] at long
    simp only [maximumLength] at short
    rw [verifyChecksum_eq_ok_iff]
    exact internetChecksum_setWord_self packet.octets 2 (by decide) (by omega) (by omega)
  length := by simp only [fillChecksum, setChecksum, Octets.length_setWord]
  elsewhere := by
    intro other notHigh notLow
    rw [fillChecksum_eq]
    exact Octets.octetAt_setWord_of_ne _ notHigh notLow
  again := by rw [packet.fillChecksum_eq, fillChecksum_setChecksum, fillChecksum_eq]

theorem verifyChecksum_eq_ok_iff_balanced (short : packet.octets.length ≤ maximumLength) :
    packet.verifyChecksum = .ok () ↔ Balanced packet.octets := by
  rw [verifyChecksum_eq_ok_iff, computedChecksum,
    internetChecksum_eq_zero_iff_balanced (Nat.le_trans short (by decide))]

end IcmpPacket

/-- The checksum of an octet string is the complement of the sum of its words modulo `65535`,
as long as the register is wide enough.

To fill the checksum of an IPv4 packet whose header is at hand, or of an ICMP packet, makes it
match, changes the two octets of the field only and need not be repeated.  The checksum of a
packet matches exactly when the words that it covers are not all zero and add up to a multiple
of `65535`. -/
theorem checksums_sum_up_and_fill :
    (∀ octets : Octets, octets.length ≤ 131074 → SumsUp octets) ∧
    (∀ packet : Ipv4Packet, Ipv4Packet.minimumHeaderLength ≤ packet.headerLength →
      packet.headerLength ≤ packet.octets.length →
        FillsChecksum Ipv4Packet.octets Ipv4Packet.verifyChecksum Ipv4Packet.fillChecksum 10
          packet ∧
        (packet.verifyChecksum = .ok () ↔ Balanced packet.header)) ∧
    ∀ packet : IcmpPacket, IcmpPacket.headerLength ≤ packet.octets.length →
      packet.octets.length ≤ IcmpPacket.maximumLength →
        FillsChecksum IcmpPacket.octets IcmpPacket.verifyChecksum IcmpPacket.fillChecksum 2
          packet ∧
        (packet.verifyChecksum = .ok () ↔ Balanced packet.octets) := by
  refine ⟨fun octets short => sumsUp_of_short short, ?_, ?_⟩
  · intro packet minimum whole
    exact ⟨Ipv4Packet.fillsChecksum minimum whole, Ipv4Packet.verifyChecksum_eq_ok_iff_balanced⟩
  · intro packet long short
    exact ⟨IcmpPacket.fillsChecksum long short,
      IcmpPacket.verifyChecksum_eq_ok_iff_balanced short⟩

/-- The register is full, a header with options is filled over an old checksum, and the checksum
of an ICMP packet of zeros is `0xFFFF`. -/
theorem checksums_sum_up_and_fill_extremes :
    let full : Octets := List.replicate 131074 0xFF
    let packet : Ipv4Packet := ⟨0x46 :: List.replicate 30 0xFF⟩
    let zeros : IcmpPacket := ⟨List.replicate 9 0⟩
    SumsUp full ∧
    packet.headerLength = 24 ∧ packet.fillChecksum.verifyChecksum = .ok () ∧
    packet.fillChecksum.fillChecksum = packet.fillChecksum ∧
    zeros.verifyChecksum ≠ .ok () ∧ zeros.fillChecksum.checksum = 0xFFFF ∧
    zeros.fillChecksum.verifyChecksum = .ok () := by
  intro full packet zeros
  obtain ⟨sums, headers, messages⟩ := checksums_sum_up_and_fill
  have filled := (headers packet (by decide) (by decide)).1
  obtain ⟨zerosFilled, matchingIff⟩ := messages zeros (by decide) (by decide)
  refine ⟨sums full (Nat.le_of_eq (List.length_replicate ..)), by decide, filled.matching,
    filled.again, ?_, by decide +kernel, zerosFilled.matching⟩
  intro matching
  obtain ⟨⟨octet, member, nonzero⟩, -⟩ := matchingIff.mp matching
  exact nonzero (List.eq_of_mem_replicate member)

end Ipv4Router
