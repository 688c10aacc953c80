import Ipv4Router.Ipv4Address
import Ipv4Router.MacAddress

/-!
# The neighbour cache

A router remembers which hardware address belongs to which IPv4 address, and
since when it knows.  An entry is used only while its age is at most a given
lifetime.  Outdated entries are removed now and then.

The cache also keeps a time that no entry precedes.  While that time is recent
no entry can be outdated, so a removal has nothing to look at.
-/

namespace Ipv4Router

/-- A hardware address, the IPv4 address it belongs to and the time at which this
was learnt. -/
structure NeighborEntry where
  address : Ipv4Address
  mac : MacAddress
  since : Nat
  deriving DecidableEq

/-- Whether the age of an entry is at most a lifetime. -/
def NeighborEntry.isLive (lifetime now : Nat) (entry : NeighborEntry) : Bool :=
  now - entry.since ≤ lifetime

/-- The hardware addresses a router remembers, at most one for each IPv4 address,
and a time that none of them precedes. -/
structure NeighborCache where
  entries : List NeighborEntry
  oldest : Nat
  deriving DecidableEq

namespace NeighborCache

def empty (now : Nat) : NeighborCache :=
  ⟨[], now⟩

/-- The entry of an address, outdated or not. -/
def find? (cache : NeighborCache) (address : Ipv4Address) : Option NeighborEntry :=
  cache.entries.find? (fun entry => entry.address = address)

/-- The hardware address of an address, if its entry is still to be used. -/
def lookup (lifetime now : Nat) (cache : NeighborCache) (address : Ipv4Address) :
    Option MacAddress :=
  ((cache.find? address).filter (NeighborEntry.isLive lifetime now)).map NeighborEntry.mac

/-- Remember a hardware address from now on, in place of any earlier one. -/
def insert (now : Nat) (cache : NeighborCache) (address : Ipv4Address) (mac : MacAddress) :
    NeighborCache where
  entries := ⟨address, mac, now⟩ :: cache.entries.filter (fun entry => entry.address ≠ address)
  oldest := if cache.entries.isEmpty then now else cache.oldest

/-- Remove the outdated entries and count them.  Nothing is looked at while the
time that no entry precedes is itself within the lifetime. -/
def expire (lifetime now : Nat) (cache : NeighborCache) : Nat × NeighborCache :=
  if now ≤ cache.oldest + lifetime then (0, cache)
  else
    let live := cache.entries.filter (NeighborEntry.isLive lifetime now)
    (cache.entries.length - live.length,
      ⟨live, (live.map NeighborEntry.since).min?.getD now⟩)

@[simp]
theorem find?_insert_self (now : Nat) (cache : NeighborCache) (address : Ipv4Address)
    (mac : MacAddress) :
    (cache.insert now address mac).find? address = some ⟨address, mac, now⟩ := by
  simp [find?, insert]

theorem find?_insert_of_ne {now : Nat} {cache : NeighborCache} {address other : Ipv4Address}
    {mac : MacAddress} (distinct : other ≠ address) :
    (cache.insert now address mac).find? other = cache.find? other := by
  simp only [find?, insert, List.find?_cons]
  rw [decide_eq_false (Ne.symm distinct)]
  simp only [List.find?_filter]
  congr 1
  funext entry
  by_cases same : entry.address = other
  · simp [same, distinct]
  · simp [same]

end NeighborCache

end Ipv4Router
