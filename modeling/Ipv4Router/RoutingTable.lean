import Ipv4Router.ConfigurationError

/-!
# Routing tables

A routing table is a list of routes no two of which clash.  For an address it
chooses, among the routes that cover the address, the one with the greatest mask
seen as a number.  With contiguous masks that is the longest prefix.

That no two routes clash is part of the type: the empty table has the property
and adding a route refuses to break it.
-/

namespace Ipv4Router

/-- A list of routes, no two of which clash. -/
structure RoutingTable where
  routes : List Route
  apart : routes.Pairwise (fun left right => ¬ left.Clashes right)

namespace RoutingTable

def empty : RoutingTable :=
  ⟨[], List.Pairwise.nil⟩

/-- Offer a route to a table.  It is added at the end, unless it clashes with a
route of the table, which then stays as it was. -/
def offer (table : RoutingTable) (route : Route) :
    RoutingTable × Except ConfigurationError Unit :=
  if clash : ∃ other ∈ table.routes, other.Clashes route then
    (table, .error (.duplicateRoute route))
  else
    let extended : RoutingTable := {
      routes := table.routes ++ [route]
      apart := by
        rw [List.pairwise_append]
        refine ⟨table.apart, List.pairwise_singleton _ _, ?_⟩
        intro other otherMem added addedMem
        rw [List.mem_singleton] at addedMem
        subst added
        exact fun clashes => clash ⟨other, otherMem, clashes⟩ }
    (extended, .ok ())

/-- A table with a route added to it, if it takes the route. -/
def add (table : RoutingTable) (route : Route) :
    Except ConfigurationError RoutingTable :=
  match table.offer route with
  | (extended, .ok ()) => .ok extended
  | (_, .error fault) => .error fault

/-- Of the best route so far and a further one, keep the one with the greater
mask; of equal masks keep the later route. -/
def preferGreaterMask (best : Option Route) (route : Route) : Option Route :=
  match best with
  | none => some route
  | some current =>
      if current.mask.toUInt32 ≤ route.mask.toUInt32 then some route else some current

/-- The route for an address: of those that cover it, the one with the greatest
mask. -/
def lookup (table : RoutingTable) (address : Ipv4Address) : Option Route :=
  (table.routes.filter (fun route => route.covers address)).foldl preferGreaterMask none

@[ext]
theorem ext {first second : RoutingTable} (routesEq : first.routes = second.routes) :
    first = second := by
  cases first
  cases second
  cases routesEq
  rfl

theorem offer_of_clash {table : RoutingTable} {route : Route}
    (clash : ∃ other ∈ table.routes, other.Clashes route) :
    table.offer route = (table, .error (.duplicateRoute route)) :=
  dif_pos clash

theorem offer_cases (table : RoutingTable) (route : Route) :
    ((∃ other ∈ table.routes, other.Clashes route) ∧
        table.offer route = (table, .error (.duplicateRoute route))) ∨
      (∀ other ∈ table.routes, ¬ other.Clashes route) ∧
        ∃ extended, extended.routes = table.routes ++ [route] ∧
          table.offer route = (extended, .ok ()) := by
  by_cases clash : ∃ other ∈ table.routes, other.Clashes route
  · exact Or.inl ⟨clash, offer_of_clash clash⟩
  · refine Or.inr ⟨?_, _, ?_, dif_neg clash⟩
    · exact fun other otherMem clashes => clash ⟨other, otherMem, clashes⟩
    · rfl

theorem add_eq_ok_iff {table extended : RoutingTable} {route : Route} :
    table.add route = .ok extended ↔
      (∀ other ∈ table.routes, ¬ other.Clashes route) ∧
        extended.routes = table.routes ++ [route] := by
  rcases offer_cases table route with
    ⟨⟨other, otherMem, clashes⟩, refused⟩ | ⟨apart, longer, appended, taken⟩
  · rw [add, refused]
    constructor
    · intro impossible
      cases impossible
    · intro accepted
      exact absurd clashes (accepted.1 other otherMem)
  · rw [add, taken]
    constructor
    · intro added
      cases added
      exact ⟨apart, appended⟩
    · intro accepted
      exact congrArg Except.ok (ext (appended.trans accepted.2.symm))

theorem add_eq_error_iff {table : RoutingTable} {route : Route} {fault : ConfigurationError} :
    table.add route = .error fault ↔
      fault = .duplicateRoute route ∧ ∃ other ∈ table.routes, other.Clashes route := by
  rcases offer_cases table route with
    ⟨clash, refused⟩ | ⟨apart, longer, -, taken⟩
  · rw [add, refused]
    constructor
    · intro same
      cases same
      exact ⟨rfl, clash⟩
    · rintro ⟨rfl, -⟩
      rfl
  · rw [add, taken]
    constructor
    · intro impossible
      cases impossible
    · rintro ⟨-, other, otherMem, clashes⟩
      exact absurd clashes (apart other otherMem)

end RoutingTable

end Ipv4Router
