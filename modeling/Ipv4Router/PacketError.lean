/-!
# Reasons to refuse a packet

Reading a frame or packet out of an octet string, and writing one into it, fails
for one of three reasons, at every layer alike.
-/

namespace Ipv4Router

/-- Why an octet string does not hold, or cannot take, a frame or packet. -/
inductive PacketError
  /-- The octet string is too short for what it has to hold. -/
  | tooShort
  /-- A length, version or type field contradicts the format or the octets at hand. -/
  | malformed
  /-- The checksum does not match the octets it covers. -/
  | badChecksum
  deriving DecidableEq

end Ipv4Router
