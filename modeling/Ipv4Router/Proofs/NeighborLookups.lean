import Ipv4Router.NeighborCache
import Ipv4Router.Proofs.KeyedLists

/-!
# What a neighbour cache answers

A lookup answers with the entry of an address as long as the entry is live.  An
insertion concerns the inserted address only, and time can only turn an answer
into none.  As the addresses in a cache are distinct, the removal of outdated
entries changes no answer.
-/

namespace Ipv4Router

namespace NeighborCache

/-- No two entries of a cache are for one address. -/
def Distinct (cache : NeighborCache) : Prop :=
  (cache.entries.map NeighborEntry.address).Nodup

variable {cache : NeighborCache} {lifetime now : Nat} {address : Ipv4Address}

theorem lookup_eq_some_iff {mac : MacAddress} :
    cache.lookup lifetime now address = some mac ↔
      ∃ entry, cache.find? address = some entry ∧ now - entry.since ≤ lifetime ∧
        entry.mac = mac := by
  simp [lookup, NeighborEntry.isLive, Option.filter_eq_some_iff, and_assoc]

@[simp]
theorem lookup_insert_self (lifetime now : Nat) (cache : NeighborCache)
    (address : Ipv4Address) (mac : MacAddress) :
    (cache.insert now address mac).lookup lifetime now address = some mac := by
  rw [lookup_eq_some_iff]
  exact ⟨⟨address, mac, now⟩, find?_insert_self now cache address mac, by simp, rfl⟩

theorem lookup_insert_of_ne {since : Nat} {other : Ipv4Address} {mac : MacAddress}
    (distinct : other ≠ address) :
    (cache.insert since address mac).lookup lifetime now other =
      cache.lookup lifetime now other := by
  simp only [lookup, find?_insert_of_ne distinct]

/-- An address that is not answered stays so while time passes. -/
theorem lookup_eq_none_of_le {later : Nat} (order : now ≤ later)
    (unknown : cache.lookup lifetime now address = none) :
    cache.lookup lifetime later address = none := by
  rw [Option.eq_none_iff_forall_ne_some] at unknown ⊢
  intro mac known
  obtain ⟨entry, found, young, macEq⟩ := lookup_eq_some_iff.mp known
  exact unknown mac (lookup_eq_some_iff.mpr ⟨entry, found, by omega, macEq⟩)

theorem distinct_empty (now : Nat) : (empty now).Distinct :=
  List.nodup_nil

theorem Distinct.insert (distinct : cache.Distinct) (since : Nat) (address : Ipv4Address)
    (mac : MacAddress) : (cache.insert since address mac).Distinct := by
  simp only [Distinct, NeighborCache.insert, List.map_cons, List.nodup_cons]
  refine ⟨?_, (List.filter_sublist.map _).nodup distinct⟩
  simp

theorem Distinct.expire (distinct : cache.Distinct) (lifetime now : Nat) :
    (cache.expire lifetime now).2.Distinct := by
  unfold NeighborCache.expire
  split
  · exact distinct
  · exact (List.filter_sublist.map _).nodup distinct

/-- After the removal of outdated entries, an entry is found if it was found
before and was either live or passed over unseen. -/
theorem find?_expire (distinct : cache.Distinct) (lifetime now : Nat) (address : Ipv4Address) :
    (cache.expire lifetime now).2.find? address = cache.find? address ∨
      (cache.expire lifetime now).2.find? address =
        (cache.find? address).filter (NeighborEntry.isLive lifetime now) := by
  unfold NeighborCache.expire
  split
  · exact Or.inl rfl
  · exact Or.inr (find?_key_filter distinct _ address)

theorem find?_expire_of_live (distinct : cache.Distinct) {entry : NeighborEntry}
    (found : cache.find? address = some entry) (live : entry.isLive lifetime now = true) :
    (cache.expire lifetime now).2.find? address = some entry := by
  rcases find?_expire distinct lifetime now address with same | filtered
  · exact same.trans found
  · rw [filtered, found, Option.filter_some, if_pos live]

/-- The removal of outdated entries changes no answer. -/
theorem lookup_expire (distinct : cache.Distinct) (lifetime now : Nat) (address : Ipv4Address) :
    (cache.expire lifetime now).2.lookup lifetime now address =
      cache.lookup lifetime now address := by
  rcases find?_expire distinct lifetime now address with same | filtered
  · simp only [lookup, same]
  · simp only [lookup, filtered, Option.filter_filter, Bool.and_self]

end NeighborCache

end Ipv4Router
