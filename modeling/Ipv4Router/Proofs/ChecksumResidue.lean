import Ipv4Router.IcmpPacket
import Ipv4Router.Proofs.OctetRuns

/-!
# The checksum modulo `65535`

The ones' complement sum of an octet string has the residue of the plain sum of
its words modulo `65535`, and it is zero only for a string of zeros.  Filling in
the complement of that sum therefore makes the words add up to a multiple of
`65535`, which is what a receiver checks.

The sum of a string that is split at an even place is the sum of its parts, and
this is how a single word of the string enters the sum.
-/

namespace Ipv4Router

/-- The sum of the big-endian words of an octet string, where an odd last octet
counts as the high octet of a word. -/
def wordSum : Octets → Nat
  | [] => 0
  | [last] => last.toNat * 256
  | high :: low :: rest => high.toNat * 256 + low.toNat + wordSum rest

theorem wordSum_append {first second : Octets} (even : first.length % 2 = 0) :
    wordSum (first ++ second) = wordSum first + wordSum second := by
  induction first using wordSum.induct with
  | case1 => simp [wordSum]
  | case2 last => simp at even
  | case3 high low rest ih =>
      have restEven : rest.length % 2 = 0 := by
        simp only [List.length_cons] at even
        omega
      simp only [List.cons_append, wordSum, ih restEven]
      omega

theorem wordSum_le (octets : Octets) : wordSum octets ≤ 65535 * ((octets.length + 1) / 2) := by
  induction octets using wordSum.induct with
  | case1 => simp [wordSum]
  | case2 last =>
      have bound := last.toNat_lt
      simp only [wordSum, List.length_singleton]
      omega
  | case3 high low rest ih =>
      have highBound := high.toNat_lt
      have lowBound := low.toNat_lt
      simp only [wordSum, List.length_cons]
      omega

/-- The first octet of a string is the high octet of one of its words. -/
theorem octetAt_mul_le_wordSum (octets : Octets) :
    (octets.octetAt 0).toNat * 256 ≤ wordSum octets := by
  match octets with
  | [] => simp [Octets.octetAt]
  | [last] => exact Nat.le_refl _
  | high :: low :: rest =>
      simp only [Octets.octetAt, List.getD_cons_zero, wordSum]
      omega

theorem wordSum_setWord {octets : Octets} {offset : Nat} (value : UInt16)
    (even : offset % 2 = 0) (fits : offset + 2 ≤ octets.length) :
    wordSum (octets.setWord offset value) + (octets.wordAt offset).toNat =
      wordSum octets + value.toNat := by
  have startEven : (octets.take offset).length % 2 = 0 := by
    rw [List.length_take, Nat.min_eq_left (by omega)]
    exact even
  have original : octets =
      octets.take offset ++ (Octets.ofWord (octets.wordAt offset) ++ octets.drop (offset + 2)) := by
    rw [← Octets.drop_eq_ofWord_append fits, List.take_append_drop]
  have replaced : octets.setWord offset value =
      octets.take offset ++ (Octets.ofWord value ++ octets.drop (offset + 2)) := by
    rw [Octets.setWord, Octets.overwrite_eq_append (by simpa using fits), List.append_assoc]
    rfl
  have sumWord : ∀ word : UInt16, wordSum (Octets.ofWord word) = word.toNat := by
    intro word
    have read := congrArg UInt16.toNat (Octets.word_ofWord word)
    rw [Octets.toNat_word] at read
    simpa [Octets.ofWord, wordSum] using read
  have originalSum := congrArg wordSum original
  rw [wordSum_append startEven, wordSum_append (by simp), sumWord] at originalSum
  rw [replaced, wordSum_append startEven, wordSum_append (by simp), sumWord]
  omega

/-- A register that is wide enough holds the plain sum. -/
theorem toNat_accumulateWords {total : UInt32} {octets : Octets}
    (fits : total.toNat + wordSum octets < 4294967296) :
    (accumulateWords total octets).toNat = total.toNat + wordSum octets := by
  induction octets using wordSum.induct generalizing total with
  | case1 => simp [accumulateWords, wordSum]
  | case2 last =>
      simp only [wordSum] at fits ⊢
      simp only [accumulateWords, UInt32.toNat_add, UInt16.toNat_toUInt32, Octets.toNat_word]
      simp only [UInt8.toNat_zero, Nat.add_zero]
      omega
  | case3 high low rest ih =>
      simp only [wordSum] at fits ⊢
      have headSum : (total + (Octets.word high low).toUInt32).toNat =
          total.toNat + (high.toNat * 256 + low.toNat) := by
        rw [UInt32.toNat_add, UInt16.toNat_toUInt32, Octets.toNat_word]
        omega
      rw [accumulateWords, ih (by omega), headSum]
      omega

/-- Folding the carries keeps the residue and does not reach zero. -/
theorem toNat_foldCarries (total : UInt32) :
    (foldCarries total).toNat % 65535 = total.toNat % 65535 ∧
      ((foldCarries total).toNat = 0 ↔ total.toNat = 0) := by
  induction total using foldCarries.induct with
  | case1 total small =>
      have smallNat : total.toNat ≤ 65535 := by
        simpa [UInt32.le_iff_toNat_le] using small
      have kept : (foldCarries total).toNat = total.toNat := by
        rw [foldCarries, if_pos small, UInt32.toNat_toUInt16]
        omega
      rw [kept]
      exact ⟨rfl, Iff.rfl⟩
  | case2 total large ih =>
      have largeNat : ¬ total.toNat ≤ 65535 := by
        simpa [UInt32.le_iff_toNat_le] using large
      rw [foldCarries, if_neg large]
      rw [toNat_foldOnce] at ih
      constructor
      · rw [ih.1]
        omega
      · rw [ih.2]
        omega

/-- Up to the length at which the register could overflow, the ones' complement
sum is the plain sum modulo `65535`, and it is zero only for zero words. -/
theorem toNat_onesComplementSum {octets : Octets} (short : octets.length ≤ 131074) :
    (onesComplementSum octets).toNat % 65535 = wordSum octets % 65535 ∧
      ((onesComplementSum octets).toNat = 0 ↔ wordSum octets = 0) := by
  have bound := wordSum_le octets
  have plain : (accumulateWords 0 octets).toNat = wordSum octets := by
    rw [toNat_accumulateWords]
    · simp
    · simp only [UInt32.toNat_zero]
      omega
  have folded := toNat_foldCarries (accumulateWords 0 octets)
  rw [plain] at folded
  exact folded

theorem toNat_internetChecksum (octets : Octets) :
    (internetChecksum octets).toNat = 65535 - (onesComplementSum octets).toNat := by
  simp [internetChecksum, UInt16.toNat_not]

/-- A string passes as holding its checksum exactly when its words are not all
zero and add up to a multiple of `65535`. -/
theorem internetChecksum_eq_zero_iff {octets : Octets} (short : octets.length ≤ 131074) :
    internetChecksum octets = 0 ↔ 0 < wordSum octets ∧ wordSum octets % 65535 = 0 := by
  have sum := toNat_onesComplementSum short
  have bound := (onesComplementSum octets).toNat_lt
  rw [← UInt16.toNat_inj, toNat_internetChecksum, UInt16.toNat_zero]
  omega

/-- A string whose checksum field was cleared and then filled holds its checksum. -/
theorem internetChecksum_setWord_self (octets : Octets) (offset : Nat)
    (even : offset % 2 = 0) (fits : offset + 2 ≤ octets.length)
    (short : octets.length ≤ 131074) :
    let cleared := octets.setWord offset 0
    internetChecksum (cleared.setWord offset (internetChecksum cleared)) = 0 := by
  intro cleared
  have length : cleared.length = octets.length := Octets.length_setWord octets offset 0
  have zero : cleared.wordAt offset = 0 := Octets.wordAt_setWord 0 fits
  have clearedShort : cleared.length ≤ 131074 := by omega
  have clearedFits : offset + 2 ≤ cleared.length := by omega
  have sum := toNat_onesComplementSum clearedShort
  have bound := (onesComplementSum cleared).toNat_lt
  have filled := wordSum_setWord (internetChecksum cleared) even clearedFits
  rw [zero, UInt16.toNat_zero, toNat_internetChecksum] at filled
  rw [internetChecksum_eq_zero_iff (by rw [Octets.length_setWord]; omega)]
  omega

/-- Lowering a word of a string that holds its checksum raises the checksum by as much,
modulo `65535`.  The words must not all become zero: their checksum would be `65535`, which
is no residue. -/
theorem toNat_internetChecksum_lowered {octets : Octets} {offset field : Nat} {value : UInt16}
    (intact : internetChecksum octets = 0) (even : offset % 2 = 0) (fieldEven : field % 2 = 0)
    (apart : offset + 2 ≤ field) (fits : field + 2 ≤ octets.length)
    (short : octets.length ≤ 131074) (lower : value.toNat ≤ (octets.wordAt offset).toNat)
    (nonzero : 0 < wordSum ((octets.setWord offset value).setWord field 0)) :
    (internetChecksum ((octets.setWord offset value).setWord field 0)).toNat =
      ((octets.wordAt field).toNat + ((octets.wordAt offset).toNat - value.toNat)) % 65535 := by
  have untouched : (octets.setWord offset value).wordAt field = octets.wordAt field := by
    simp only [Octets.wordAt, Octets.setWord]
    rw [Octets.octetAt_overwrite_of_le (by simpa using apart),
      Octets.octetAt_overwrite_of_le (by rw [Octets.length_ofWord]; omega)]
  have clearedFits : field + 2 ≤ (octets.setWord offset value).length := by
    rwa [Octets.length_setWord]
  have clearedShort : ((octets.setWord offset value).setWord field 0).length ≤ 131074 := by
    simpa using short
  have lowered := wordSum_setWord value even (by omega : offset + 2 ≤ octets.length)
  have cleared := wordSum_setWord 0 fieldEven clearedFits
  rw [untouched, UInt16.toNat_zero] at cleared
  have matching := (internetChecksum_eq_zero_iff short).mp intact
  have sum := toNat_onesComplementSum clearedShort
  have bound := (onesComplementSum ((octets.setWord offset value).setWord field 0)).toNat_lt
  rw [toNat_internetChecksum]
  omega

/-- When the high octet of a word goes down by one, the checksum goes up by `256`.  The first
octet of the string stays and keeps the words from all becoming zero. -/
theorem toNat_internetChecksum_decremented {octets : Octets} {offset field : Nat}
    (intact : internetChecksum octets = 0) (even : offset % 2 = 0) (fieldEven : field % 2 = 0)
    (behindFirst : 0 < offset) (apart : offset + 2 ≤ field) (fits : field + 2 ≤ octets.length)
    (short : octets.length ≤ 131074) (first : 0 < (octets.octetAt 0).toNat)
    (positive : 1 ≤ (octets.octetAt offset).toNat) :
    (internetChecksum
      ((octets.setOctet offset (octets.octetAt offset - 1)).setWord field 0)).toNat =
      ((octets.wordAt field).toNat + 256) % 65535 := by
  have notSmaller : (1 : UInt8) ≤ octets.octetAt offset := UInt8.le_iff_toNat_le.mpr positive
  have decremented : (octets.octetAt offset - 1).toNat + 1 = (octets.octetAt offset).toNat := by
    rw [UInt8.toNat_sub_of_le _ _ notSmaller, UInt8.toNat_one]
    omega
  have word : (octets.wordAt offset).toNat =
      (octets.octetAt offset).toNat * 256 + (octets.octetAt (offset + 1)).toNat := by
    rw [Octets.wordAt, Octets.toNat_word]
  have lowered : (Octets.word (octets.octetAt offset - 1) (octets.octetAt (offset + 1))).toNat =
      (octets.octetAt offset - 1).toNat * 256 + (octets.octetAt (offset + 1)).toNat :=
    Octets.toNat_word _ _
  have nonzero : ∀ value : UInt16,
      0 < wordSum ((octets.setWord offset value).setWord field 0) := by
    intro value
    have leading := octetAt_mul_le_wordSum ((octets.setWord offset value).setWord field 0)
    rw [Octets.setWord, Octets.setWord, Octets.octetAt_overwrite_of_lt (by omega),
      Octets.octetAt_overwrite_of_lt behindFirst] at leading
    rw [Octets.setWord, Octets.setWord]
    omega
  rw [Octets.setOctet_eq_setWord _ (by omega),
    toNat_internetChecksum_lowered intact even fieldEven apart fits short (by omega) (nonzero _),
    word, lowered]
  congr 2
  omega

end Ipv4Router
