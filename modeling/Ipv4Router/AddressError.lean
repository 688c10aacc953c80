/-!
# Reasons to refuse an address

Both kinds of address, the hardware address of an Ethernet interface and the
IPv4 address, are read from text or from an octet string, and are refused for
the same two reasons.
-/

namespace Ipv4Router

/-- Why something is not an address. -/
inductive AddressError
  /-- The text is not a row of the right number of numerals of octets. -/
  | unreadable
  | wrongLength
  deriving DecidableEq

end Ipv4Router
