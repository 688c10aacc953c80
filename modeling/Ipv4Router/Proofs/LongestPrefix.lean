import Ipv4Router.RoutingTable
import Ipv4Router.Proofs.Networks
import Mathlib.Data.List.Pairwise

/-!
# Longest prefix match

The route for an address is the one with the greatest mask among the routes that cover the
address.  Two of them cannot have the same mask, as they would then lead to the same network
and clash.  So there is one greatest, and neither the order in which the routes were added nor
the way in which ties would be broken plays any part.

A greater mask belongs to a network that is no larger set of addresses, so the route chosen
is the most specific one.
-/

namespace Ipv4Router

/-- Whether two routes clash does not depend on which comes first. -/
instance : Std.Symm (fun left right : Route => ¬ left.Clashes right) :=
  ⟨fun _ _ apart clash => apart clash.symm⟩

namespace RoutingTable

/-- The table of some routes, which are added to the empty table one after the other. -/
def ofRoutes (routes : List Route) : Except ConfigurationError RoutingTable :=
  routes.foldlM add empty

variable {table extended : RoutingTable} {routes : List Route} {route : Route}
  {address : Ipv4Address}

theorem foldlM_add_eq_ok_iff :
    routes.foldlM add table = .ok extended ↔
      (table.routes ++ routes).Pairwise (fun left right => ¬ left.Clashes right) ∧
        extended.routes = table.routes ++ routes := by
  induction routes generalizing table with
  | nil =>
      rw [List.foldlM_nil, List.append_nil]
      constructor
      · intro same
        cases same
        exact ⟨extended.apart, rfl⟩
      · intro accepted
        exact congrArg Except.ok (ext accepted.2.symm)
  | cons route rest ih =>
      rw [List.foldlM_cons, List.append_cons]
      cases added : table.add route with
      | error fault =>
          constructor
          · intro impossible
            cases impossible
          · rintro ⟨apart, -⟩
            have noClash := (List.pairwise_append.mp (List.pairwise_append.mp apart).1).2.2
            have accepted : table.add route = .ok ⟨table.routes ++ [route],
                (List.pairwise_append.mp apart).1⟩ :=
              add_eq_ok_iff.mpr
                ⟨fun other member => noClash other member route (List.mem_singleton_self _), rfl⟩
            rw [added] at accepted
            cases accepted
      | ok next =>
          rw [← (add_eq_ok_iff.mp added).2]
          exact ih

/-- Routes can be added to the empty table one after the other exactly if no two of them
clash. -/
theorem ofRoutes_eq_ok_iff :
    ofRoutes routes = .ok table ↔
      routes.Pairwise (fun left right => ¬ left.Clashes right) ∧ table.routes = routes :=
  foldlM_add_eq_ok_iff

theorem exists_ofRoutes_eq_ok_iff :
    (∃ table, ofRoutes routes = .ok table) ↔
      routes.Pairwise (fun left right => ¬ left.Clashes right) := by
  constructor
  · rintro ⟨table, accepted⟩
    exact (ofRoutes_eq_ok_iff.mp accepted).1
  · intro apart
    exact ⟨⟨routes, apart⟩, ofRoutes_eq_ok_iff.mpr ⟨apart, rfl⟩⟩

theorem pairwise_apart_of_perm {reordered : List Route} (perm : reordered.Perm routes) :
    reordered.Pairwise (fun left right => ¬ left.Clashes right) ↔
      routes.Pairwise (fun left right => ¬ left.Clashes right) :=
  perm.pairwise_iff (Std.Symm.symm _ _)

/-- Of a route and some others, one with the greatest mask is kept. -/
theorem foldl_preferGreaterMask (best : Route) (routes : List Route) :
    ∃ chosen ∈ best :: routes, routes.foldl preferGreaterMask (some best) = some chosen ∧
      ∀ other ∈ best :: routes, other.mask.toUInt32 ≤ chosen.mask.toUInt32 := by
  induction routes generalizing best with
  | nil =>
      refine ⟨best, List.mem_singleton_self best, rfl, ?_⟩
      intro other member
      rw [List.mem_singleton.mp member]
      exact UInt32.le_refl _
  | cons head rest ih =>
      by_cases preferred : best.mask.toUInt32 ≤ head.mask.toUInt32
      · obtain ⟨chosen, member, folded, greatest⟩ := ih head
        refine ⟨chosen, List.mem_cons_of_mem best member, ?_, ?_⟩
        · rw [List.foldl_cons, preferGreaterMask, if_pos preferred, folded]
        · intro other otherMember
          rcases List.mem_cons.mp otherMember with rfl | later
          · exact UInt32.le_trans preferred (greatest head List.mem_cons_self)
          · exact greatest other later
      · obtain ⟨chosen, member, folded, greatest⟩ := ih best
        refine ⟨chosen, ?_, ?_, ?_⟩
        · rcases List.mem_cons.mp member with rfl | later
          · exact List.mem_cons_self
          · exact List.mem_cons_of_mem best (List.mem_cons_of_mem head later)
        · rw [List.foldl_cons, preferGreaterMask, if_neg preferred, folded]
        · intro other otherMember
          rcases List.mem_cons.mp otherMember with rfl | later
          · exact greatest other List.mem_cons_self
          rcases List.mem_cons.mp later with rfl | last
          · exact UInt32.le_trans (UInt32.le_of_lt (UInt32.not_le.mp preferred))
              (greatest best List.mem_cons_self)
          · exact greatest other (List.mem_cons_of_mem best last)

/-- Either no route covers an address and none is found, or one with the greatest mask among
those that do is found. -/
theorem lookup_cases (table : RoutingTable) (address : Ipv4Address) :
    (table.lookup address = none ∧ ∀ route ∈ table.routes, route.covers address = false) ∨
      ∃ route, table.lookup address = some route ∧ route ∈ table.routes ∧
        route.covers address = true ∧ ∀ other ∈ table.routes, other.covers address = true →
          other.mask.toUInt32 ≤ route.mask.toUInt32 := by
  cases candidates : table.routes.filter (fun route => route.covers address) with
  | nil =>
      refine Or.inl ⟨by rw [lookup, candidates, List.foldl_nil], ?_⟩
      simpa using List.filter_eq_nil_iff.mp candidates
  | cons first rest =>
      obtain ⟨chosen, member, folded, greatest⟩ := foldl_preferGreaterMask first rest
      rw [← candidates] at member greatest
      obtain ⟨present, covers⟩ := List.mem_filter.mp member
      refine Or.inr ⟨chosen, ?_, present, covers, ?_⟩
      · rw [lookup, candidates, List.foldl_cons]
        exact folded
      · exact fun other otherPresent otherCovers =>
          greatest other (List.mem_filter.mpr ⟨otherPresent, otherCovers⟩)

theorem lookup_eq_none_iff :
    table.lookup address = none ↔ ∀ route ∈ table.routes, route.covers address = false := by
  rcases lookup_cases table address with ⟨notFound, uncovered⟩ | ⟨route, found, present, covers, -⟩
  · exact ⟨fun _ => uncovered, fun _ => notFound⟩
  · rw [found]
    constructor
    · intro impossible
      cases impossible
    · intro uncovered
      rw [uncovered route present] at covers
      cases covers

/-- Two routes of a table that cover one address have different masks. -/
theorem eq_of_mask_eq {other : Route} (present : route ∈ table.routes)
    (otherPresent : other ∈ table.routes) (covers : route.covers address = true)
    (otherCovers : other.covers address = true) (sameMask : other.mask = route.mask) :
    other = route := by
  by_contra different
  exact table.apart.forall otherPresent present different
    (Route.clashes_of_covers covers otherCovers sameMask)

/-- The route found is the only one whose mask is greater than those of all other routes that
cover the address. -/
theorem lookup_eq_some_iff :
    table.lookup address = some route ↔
      route ∈ table.routes ∧ route.covers address = true ∧
        ∀ other ∈ table.routes, other.covers address = true → other ≠ route →
          other.mask.toUInt32 < route.mask.toUInt32 := by
  constructor
  · intro found
    rcases lookup_cases table address with ⟨notFound, -⟩ | ⟨chosen, chosenFound, present, covers,
      greatest⟩
    · rw [found] at notFound
      cases notFound
    rw [found] at chosenFound
    cases chosenFound
    refine ⟨present, covers, ?_⟩
    intro other otherPresent otherCovers different
    refine UInt32.lt_of_le_of_ne (greatest other otherPresent otherCovers) ?_
    intro sameNumber
    have sameMask : other.mask = route.mask := by
      rw [← Ipv4Address.ofUInt32_toUInt32 other.mask, sameNumber, Ipv4Address.ofUInt32_toUInt32]
    exact different (eq_of_mask_eq present otherPresent covers otherCovers sameMask)
  · rintro ⟨present, covers, greater⟩
    rcases lookup_cases table address with ⟨-, uncovered⟩ | ⟨chosen, found, chosenPresent,
      chosenCovers, greatest⟩
    · rw [uncovered route present] at covers
      cases covers
    by_cases same : chosen = route
    · rw [found, same]
    · exact absurd (greatest route present covers)
        (UInt32.not_le.mpr (greater chosen chosenPresent chosenCovers same))

theorem mem_of_lookup (chosen : table.lookup address = some route) : route ∈ table.routes :=
  (lookup_eq_some_iff.mp chosen).1

/-- Tables of the same routes find the same route for an address. -/
theorem lookup_eq_of_perm {other : RoutingTable} (perm : other.routes.Perm table.routes)
    (address : Ipv4Address) : other.lookup address = table.lookup address := by
  apply Option.ext
  intro route
  rw [lookup_eq_some_iff, lookup_eq_some_iff]
  simp only [perm.mem_iff]

/-- Routes can be added to the empty table in any order or in none, depending on whether two of
them have the same mask and lead to the same network.  The order has no influence on lookups.

A lookup finds a route for an address exactly if a route covers it.  The route found has a
greater mask than every other route that covers the address.  So the network of no other such
route lies within its network, and if the masks are contiguous, it has the longest prefix.

A route is refused only for a clash with a route of the table, which is left as it was. -/
theorem longest_prefix_match (routes : List Route) :
    (∀ reordered : List Route, reordered.Perm routes →
      ((∃ table, ofRoutes reordered = .ok table) ↔ routes.Pairwise (fun left right =>
        ¬ (left.mask = right.mask ∧ left.network = right.network)))) ∧
    (∀ table, ofRoutes routes = .ok table →
      (∀ reordered other, reordered.Perm routes → ofRoutes reordered = .ok other →
        ∀ address, other.lookup address = table.lookup address) ∧
      ∀ address,
        (table.lookup address = none ↔ ∀ route ∈ routes, route.covers address = false) ∧
        ∀ route, table.lookup address = some route →
          route ∈ routes ∧ route.covers address = true ∧
          ∀ other ∈ routes, other.covers address = true → other ≠ route →
            other.mask.toUInt32 < route.mask.toUInt32 ∧
            ¬ other.addresses ⊆ route.addresses ∧
            ∀ length otherLength, route.mask.IsPrefixMask length →
              other.mask.IsPrefixMask otherLength → otherLength < length) ∧
    ∀ table route fault, RoutingTable.add table route = .error fault →
      fault = .duplicateRoute route ∧ (∃ other ∈ table.routes, other.Clashes route) ∧
        table.offer route = (table, .error fault) := by
  refine ⟨?_, ?_, ?_⟩
  · intro reordered perm
    exact exists_ofRoutes_eq_ok_iff.trans (pairwise_apart_of_perm perm)
  · intro table accepted
    obtain ⟨-, rfl⟩ := ofRoutes_eq_ok_iff.mp accepted
    refine ⟨?_, fun address => ⟨lookup_eq_none_iff, ?_⟩⟩
    · intro reordered other perm otherAccepted
      obtain ⟨-, rfl⟩ := ofRoutes_eq_ok_iff.mp otherAccepted
      exact lookup_eq_of_perm perm
    · intro route found
      obtain ⟨present, covers, greater⟩ := lookup_eq_some_iff.mp found
      refine ⟨present, covers, ?_⟩
      intro other otherPresent otherCovers different
      have less := greater other otherPresent otherCovers different
      refine ⟨less, ?_, ?_⟩
      · intro within
        exact UInt32.not_le.mpr less (Route.mask_le_of_subset otherCovers within)
      · intro length otherLength isPrefix otherIsPrefix
        exact otherIsPrefix.length_lt isPrefix less
  · intro table route fault refused
    obtain ⟨rfl, clash⟩ := add_eq_error_iff.mp refused
    exact ⟨rfl, clash, offer_of_clash clash⟩

/-- A route whose mask has a gap is preferred to the routes with shorter prefixes, in whichever
order the three are added. -/
theorem longest_prefix_match_gap :
    let everywhere : Route := ⟨⟨0, 0, 0, 0⟩, ⟨10, 0, 1, 9⟩, ⟨0, 0, 0, 0⟩, "wan"⟩
    let gapped : Route := ⟨⟨10, 1, 2, 3⟩, ⟨0, 0, 0, 0⟩, ⟨255, 0, 255, 0⟩, "lan"⟩
    let site : Route := ⟨⟨10, 0, 0, 0⟩, ⟨0, 0, 0, 0⟩, ⟨255, 0, 0, 0⟩, "wan"⟩
    let destination : Ipv4Address := ⟨10, 9, 2, 7⟩
    let table : RoutingTable := ⟨[everywhere, gapped, site], by decide +kernel⟩
    ofRoutes [everywhere, gapped, site] = .ok table ∧
    table.lookup destination = some gapped ∧ site.covers destination = true ∧
    ¬ site.addresses ⊆ gapped.addresses ∧
    ∀ other, ofRoutes [site, gapped, everywhere] = .ok other →
      other.lookup destination = some gapped := by
  intro everywhere gapped site destination table
  have accepted : ofRoutes [everywhere, gapped, site] = .ok table :=
    ofRoutes_eq_ok_iff.mpr ⟨table.apart, rfl⟩
  have found : table.lookup destination = some gapped := by decide +kernel
  have covers : site.covers destination = true := by decide +kernel
  obtain ⟨-, lookups, -⟩ := longest_prefix_match [everywhere, gapped, site]
  obtain ⟨sameLookups, choices⟩ := lookups table accepted
  obtain ⟨-, -, best⟩ := (choices destination).2 gapped found
  refine ⟨accepted, found, covers, (best site (by simp) covers (by decide)).2.1, ?_⟩
  intro other otherAccepted
  rw [sameLookups _ other (List.reverse_perm [everywhere, gapped, site]) otherAccepted, found]

end RoutingTable

end Ipv4Router
