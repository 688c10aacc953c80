import Ipv4Router.OctetString

/-!
# The Internet checksum

IPv4 headers and ICMP messages carry a checksum: the complement of the
ones' complement sum of their big-endian words, where an odd last octet counts
as the high octet of a word.  The sum is accumulated in a 32-bit register and
its carries are folded back afterwards.

Each fold keeps the residue of the register modulo `65535`, and the folding
ends because a fold makes every register above `65535` smaller.
-/

namespace Ipv4Router

/-- Add the big-endian words of an octet string to a 32-bit register. -/
def accumulateWords (total : UInt32) : Octets → UInt32
  | [] => total
  | [last] => total + (Octets.word last 0).toUInt32
  | high :: low :: rest => accumulateWords (total + (Octets.word high low).toUInt32) rest

/-- Bring the carries above bit fifteen of a register back in at bit zero. -/
def foldOnce (total : UInt32) : UInt32 :=
  total % 65536 + total / 65536

theorem toNat_foldOnce (total : UInt32) :
    (foldOnce total).toNat = total.toNat % 65536 + total.toNat / 65536 := by
  have bound := total.toNat_lt
  have small : total.toNat % 65536 + total.toNat / 65536 < 4294967296 := by omega
  simp [foldOnce, UInt32.toNat_add, UInt32.toNat_mod, UInt32.toNat_div,
    Nat.mod_eq_of_lt small]

theorem foldOnce_lt {total : UInt32} (large : ¬ total ≤ 65535) :
    (foldOnce total).toNat < total.toNat := by
  have largeNat : ¬ total.toNat ≤ 65535 := by
    simpa [UInt32.le_iff_toNat_le] using large
  rw [toNat_foldOnce]
  omega

/-- Fold the carries of a register until it fits a word. -/
def foldCarries (total : UInt32) : UInt16 :=
  if total ≤ 65535 then total.toUInt16 else foldCarries (foldOnce total)
termination_by total.toNat
decreasing_by exact foldOnce_lt ‹_›

/-- The ones' complement sum of the big-endian words of an octet string. -/
def onesComplementSum (octets : Octets) : UInt16 :=
  foldCarries (accumulateWords 0 octets)

/-- The checksum of an octet string whose checksum field is zero.  Over a string
that already holds its checksum the result is zero. -/
def internetChecksum (octets : Octets) : UInt16 :=
  ~~~ onesComplementSum octets

end Ipv4Router
