/-!
# Settings

The times and limits by which a router resolves hardware addresses and writes
datagrams of its own.  Times are counted in nanoseconds.
-/

namespace Ipv4Router

def nanosecondsPerSecond : Nat := 1000000000

/-- The times and limits of a router. -/
structure Settings where
  /-- The greatest age at which a resolved hardware address is still used. -/
  cacheLifetime : Nat := 15 * nanosecondsPerSecond
  sweepInterval : Nat := nanosecondsPerSecond
  /-- The least time between two ARP requests for one address. -/
  retransmitInterval : Nat := nanosecondsPerSecond
  /-- The number of ARP requests after which an address counts as unreachable. -/
  maximumAttempts : UInt32 := 5
  /-- The time to live of the datagrams that the router writes itself. -/
  icmpTimeToLive : UInt8 := 64
  deriving DecidableEq

end Ipv4Router
