import Ipv4Router.RouteFile
import Ipv4Router.Proofs.LongestPrefix

/-!
# Loading is all or nothing

A route file is described here without reference to the pass that reads it.  It splits into
lines, a line is sound if it is text that is blank or describes a route, and a file can be
loaded if all its lines are sound and no two of the routes on them clash.  A line offends if it
is not text, is neither blank nor a route, or holds a route that clashes with one before it.

The pass stops at the first line that offends.  As the routes it has collected by then are those
of a file that could have been loaded, which line that is and what is wrong with it do not
depend on the table that was to be replaced, nor on the lines that follow.
-/

namespace Ipv4Router

/-- A file splits into lines, each of which ends with a line feed or with a carriage return and
a line feed.  Whatever stands after the last line feed is a line too. -/
inductive SplitsInto : Octets → List Octets → Prop
  | empty : SplitsInto [] []
  | unended {last : Octets} (nonempty : last ≠ []) (unbroken : 10 ∉ last) :
      SplitsInto last [last]
  | lineFeed {line rest : Octets} {lines : List Octets} (unbroken : 10 ∉ line)
      (bare : line.getLast? ≠ some 13) (further : SplitsInto rest lines) :
      SplitsInto (line ++ 10 :: rest) (line :: lines)
  | carriageReturn {line rest : Octets} {lines : List Octets} (unbroken : 10 ∉ line)
      (further : SplitsInto rest lines) :
      SplitsInto (line ++ [13] ++ 10 :: rest) (line :: lines)

theorem withoutCarriageReturn_of_bare {line : Octets} (bare : line.getLast? ≠ some 13) :
    withoutCarriageReturn line = line := by
  rw [withoutCarriageReturn, if_neg bare]

@[simp]
theorem withoutCarriageReturn_append (line : Octets) :
    withoutCarriageReturn (line ++ [13]) = line := by
  rw [withoutCarriageReturn, List.getLast?_concat, if_pos rfl, List.dropLast_concat]

theorem fileLines_of_unbroken {last : Octets} (unbroken : 10 ∉ last) :
    fileLines last = if last.isEmpty then [] else [last] := by
  rw [fileLines, List.splitOn_eq_singleton unbroken, linesOfPieces]

theorem fileLines_append {piece : Octets} (unbroken : 10 ∉ piece) (rest : Octets) :
    fileLines (piece ++ 10 :: rest) = withoutCarriageReturn piece :: fileLines rest := by
  have pieces : (piece ++ 10 :: rest).splitOn 10 = piece :: rest.splitOn 10 := by
    apply List.splitOnP_append_cons_of_forall_mem
    · intro octet member
      exact beq_false_of_ne (ne_of_mem_of_not_mem member unbroken)
    · exact beq_self_eq_true _
  rw [fileLines, fileLines, pieces]
  cases remaining : rest.splitOn 10 with
  | nil => exact absurd remaining (List.splitOn_ne_nil 10 rest)
  | cons next others => rfl

theorem SplitsInto.eq_fileLines {file : Octets} {lines : List Octets}
    (splits : SplitsInto file lines) : lines = fileLines file := by
  induction splits with
  | empty => rfl
  | @unended last nonempty unbroken =>
      rw [fileLines_of_unbroken unbroken, if_neg (mt List.isEmpty_iff.mp nonempty)]
  | lineFeed unbroken bare further ih =>
      rw [fileLines_append unbroken, withoutCarriageReturn_of_bare bare, ih]
  | @carriageReturn line rest lines unbroken further ih =>
      have unbrokenStill : 10 ∉ line ++ [13] := by simpa using unbroken
      rw [fileLines_append unbrokenStill, withoutCarriageReturn_append, ih]

theorem splitsInto_fileLines (file : Octets) : SplitsInto file (fileLines file) := by
  -- Each step takes a line off the front, up to and including its line feed.
  induction counted : file.length using Nat.strong_induction_on generalizing file with
  | _ size ih =>
    by_cases broken : 10 ∈ file
    · obtain ⟨piece, rest, rfl, unbroken⟩ := List.eq_append_cons_of_mem broken
      have shorter : rest.length < size := by
        rw [← counted, List.length_append, List.length_cons]
        omega
      have further := ih rest.length shorter rest rfl
      rw [fileLines_append unbroken]
      by_cases bare : piece.getLast? = some 13
      · obtain ⟨line, rfl⟩ := List.getLast?_eq_some_iff.mp bare
        rw [withoutCarriageReturn_append]
        exact .carriageReturn (fun member => unbroken (List.mem_append_left [13] member)) further
      · rw [withoutCarriageReturn_of_bare bare]
        exact .lineFeed unbroken bare further
    · rw [fileLines_of_unbroken broken]
      cases file with
      | nil => exact .empty
      | cons first others => exact .unended (List.cons_ne_nil first others) broken

/-- A file splits into lines in one way only. -/
theorem splitsInto_iff {file : Octets} {lines : List Octets} :
    SplitsInto file lines ↔ lines = fileLines file := by
  constructor
  · exact SplitsInto.eq_fileLines
  · rintro rfl
    exact splitsInto_fileLines file

theorem decodeText?_eq_some_iff {octets : Octets} {text : String} :
    decodeText? octets = some text ↔ octets = encodeText text := by
  rw [decodeText?, String.fromUTF8?]
  constructor
  · intro decoded
    split at decoded
    · cases decoded
      rfl
    · cases decoded
  · rintro rfl
    have valid : (ByteArray.mk (encodeText text).toArray).IsValidUTF8 := text.isValidUTF8
    rw [dif_pos valid]
    rfl

@[simp]
theorem decodeText?_encodeText (text : String) : decodeText? (encodeText text) = some text :=
  decodeText?_eq_some_iff.mpr rfl

/-- Nothing but white space stands in a text. -/
def IsBlank (text : String) : Prop :=
  text.toList.all isWhiteSpace = true

theorem whiteSpaceFields_eq_nil {text : List Char} (blank : text.all isWhiteSpace = true) :
    whiteSpaceFields text = [] := by
  induction text with
  | nil => rfl
  | cons first rest ih =>
      rw [List.all_cons, Bool.and_eq_true] at blank
      have fields : whiteSpaceFields (first :: rest) = whiteSpaceFields rest := by
        rw [whiteSpaceFields, ← List.nil_append (first :: rest),
          List.splitOnP_append_cons [] rest blank.1]
        rfl
      rw [fields, ih blank.2]

/-- A blank text does not describe a route: what the test for blank lines lets pass has no
fields. -/
theorem parse_of_blank {text : String} (blank : IsBlank text) :
    Route.parse text = .error (.incompleteRoute text) := by
  rw [Route.parse, whiteSpaceFields_eq_nil blank]

/-- The route that a line describes, if it is text that describes one. -/
def routeOn? (line : Octets) : Option Route :=
  (decodeText? line).bind (fun text => (Route.parse text).toOption)

/-- The routes that some lines describe, in order. -/
def routesOn (lines : List Octets) : List Route :=
  lines.filterMap routeOn?

@[simp]
theorem routeOn?_encodeText (text : String) :
    routeOn? (encodeText text) = (Route.parse text).toOption := by
  rw [routeOn?, decodeText?_encodeText, Option.bind_some]

theorem routesOn_cons (line : Octets) (rest : List Octets) :
    routesOn (line :: rest) = (routeOn? line).toList ++ routesOn rest := by
  rw [routesOn, List.filterMap_cons]
  cases routeOn? line with
  | none => rfl
  | some route => rfl

/-- A line is text that is blank or describes a route. -/
def IsSound (line : Octets) : Prop :=
  ∃ text, line = encodeText text ∧ (IsBlank text ∨ ∃ route, Route.parse text = .ok route)

theorem isSound_encodeText {text : String} :
    IsSound (encodeText text) ↔ IsBlank text ∨ ∃ route, Route.parse text = .ok route := by
  constructor
  · rintro ⟨other, same, readable⟩
    have decoded := congrArg decodeText? same
    rw [decodeText?_encodeText, decodeText?_encodeText] at decoded
    cases decoded
    exact readable
  · exact fun readable => ⟨text, rfl, readable⟩

/-- All lines are sound, and no two of the routes on them lead to the same network under the
same mask. -/
structure Loadable (lines : List Octets) : Prop where
  sound : ∀ line ∈ lines, IsSound line
  apart : (routesOn lines).Pairwise
    (fun left right => ¬ (left.mask = right.mask ∧ left.network = right.network))

/-- What is wrong with a line, given its number and the routes on the lines before it. -/
inductive Offends (earlier : List Route) (number : Nat) : Octets → RouteFileError → Prop
  | notText {line : Octets} (undecodable : ∀ text, line ≠ encodeText text) :
      Offends earlier number line .notText
  | unreadable {text : String} {fault : ConfigurationError} (written : ¬ IsBlank text)
      (refused : Route.parse text = .error fault) :
      Offends earlier number (encodeText text) (.configuration (.onLine number fault))
  | duplicate {text : String} {route other : Route} (read : Route.parse text = .ok route)
      (member : other ∈ earlier) (sameMask : other.mask = route.mask)
      (sameNetwork : other.network = route.network) :
      Offends earlier number (encodeText text) (.configuration (.duplicateRoute route))

/-- A line offends, and the lines before it could have been loaded without it. -/
def FirstOffence (lines : List Octets) (fault : RouteFileError) : Prop :=
  ∃ before line after, lines = before ++ line :: after ∧ Loadable before ∧
    Offends (routesOn before) (before.length + 1) line fault

/-- The sentence that reports a line which is neither blank nor a route begins with the number
of the line.  The one that reports a clash names the route on the line. -/
theorem Offends.message {earlier : List Route} {number : Nat} {line : Octets}
    {fault : ConfigurationError} (offends : Offends earlier number line (.configuration fault)) :
    (¬ IsSound line → ∃ reason : ConfigurationError,
      fault.message = "line " ++ toString number ++ ": " ++ reason.message) ∧
    (IsSound line → ∃ route, routeOn? line = some route ∧
      fault.message = "duplicate route " ++ route.display) := by
  cases offends with
  | @unreadable text reason written refused =>
      refine ⟨fun _ => ⟨reason, rfl⟩, ?_⟩
      intro sound
      rcases isSound_encodeText.mp sound with blank | ⟨route, read⟩
      · exact absurd blank written
      · rw [read] at refused
        cases refused
  | @duplicate text route other read member sameMask sameNetwork =>
      refine ⟨fun unsound => absurd ⟨text, rfl, Or.inr ⟨route, read⟩⟩ unsound, ?_⟩
      intro sound
      refine ⟨route, ?_, rfl⟩
      rw [routeOn?_encodeText, read]
      rfl

namespace RoutingTable

variable {table extended : RoutingTable} {number : Nat} {line : Octets} {lines : List Octets}
  {fault : RouteFileError}

theorem addLine_notText (undecodable : ∀ text, line ≠ encodeText text) :
    table.addLine number line = .error .notText := by
  cases decoded : decodeText? line with
  | none => rw [addLine, decoded]
  | some text => exact absurd (decodeText?_eq_some_iff.mp decoded) (undecodable text)

theorem addLine_blank {text : String} (blank : IsBlank text) :
    table.addLine number (encodeText text) = .ok table := by
  rw [addLine, decodeText?_encodeText]
  exact if_pos blank

theorem addLine_unreadable {text : String} {reason : ConfigurationError}
    (written : ¬ IsBlank text) (refused : Route.parse text = .error reason) :
    table.addLine number (encodeText text) =
      .error (.configuration (.onLine number reason)) := by
  rw [addLine, decodeText?_encodeText]
  simp only [if_neg (show ¬ text.toList.all isWhiteSpace = true from written), refused]

theorem addLine_route {text : String} {route : Route} (read : Route.parse text = .ok route) :
    table.addLine number (encodeText text) =
      (table.add route).mapError .configuration := by
  have written : ¬ text.toList.all isWhiteSpace = true := by
    intro blank
    rw [parse_of_blank blank] at read
    cases read
  rw [addLine, decodeText?_encodeText]
  simp only [if_neg written, read]

/-- What becomes of a line: it is not text, it is blank, it is at fault itself, or it offers a
route to the table. -/
theorem addLine_cases (table : RoutingTable) (number : Nat) (line : Octets) :
    ((∀ text, line ≠ encodeText text) ∧ table.addLine number line = .error .notText) ∨
    (∃ text, line = encodeText text ∧ IsBlank text ∧ table.addLine number line = .ok table) ∨
    (∃ text reason, line = encodeText text ∧ ¬ IsBlank text ∧
      Route.parse text = .error reason ∧
      table.addLine number line = .error (.configuration (.onLine number reason))) ∨
    ∃ text route, line = encodeText text ∧ Route.parse text = .ok route ∧
      table.addLine number line = (table.add route).mapError .configuration := by
  by_cases decodable : ∃ text, line = encodeText text
  · obtain ⟨text, rfl⟩ := decodable
    refine Or.inr ?_
    by_cases blank : IsBlank text
    · exact Or.inl ⟨text, rfl, blank, addLine_blank blank⟩
    cases read : Route.parse text with
    | error reason =>
        exact Or.inr (Or.inl ⟨text, reason, rfl, blank, read, addLine_unreadable blank read⟩)
    | ok route => exact Or.inr (Or.inr ⟨text, route, rfl, read, addLine_route read⟩)
  · have undecodable := not_exists.mp decodable
    exact Or.inl ⟨undecodable, addLine_notText undecodable⟩

/-- A line is taken exactly if it is sound and its route, if there is one, can be added. -/
theorem addLine_eq_ok_iff :
    table.addLine number line = .ok extended ↔
      IsSound line ∧ (routeOn? line).toList.foldlM add table = .ok extended := by
  rcases addLine_cases table number line with ⟨undecodable, refused⟩ |
    ⟨text, rfl, blank, taken⟩ | ⟨text, reason, rfl, written, unread, refused⟩ |
    ⟨text, route, rfl, read, offered⟩
  · rw [refused]
    constructor
    · intro impossible
      cases impossible
    · rintro ⟨⟨text, rfl, -⟩, -⟩
      exact absurd rfl (undecodable text)
  · rw [taken, routeOn?_encodeText, parse_of_blank blank]
    constructor
    · intro same
      cases same
      exact ⟨⟨text, rfl, Or.inl blank⟩, rfl⟩
    · rintro ⟨-, same⟩
      cases same
      rfl
  · rw [refused]
    constructor
    · intro impossible
      cases impossible
    · rintro ⟨sound, -⟩
      rcases isSound_encodeText.mp sound with blank | ⟨route, read⟩
      · exact absurd blank written
      · rw [read] at unread
        cases unread
  · have sound : IsSound (encodeText text) := ⟨text, rfl, Or.inr ⟨route, read⟩⟩
    rw [offered, routeOn?_encodeText, read, and_iff_right sound]
    change _ ↔ [route].foldlM add table = .ok extended
    rw [List.foldlM_cons]
    cases table.add route with
    | error fault =>
        constructor
        · intro impossible
          cases impossible
        · intro impossible
          cases impossible
    | ok next =>
        constructor
        · intro same
          cases same
          rfl
        · intro same
          cases same
          rfl

/-- A line is refused exactly if it offends, for what is wrong with it. -/
theorem addLine_eq_error_iff :
    table.addLine number line = .error fault ↔ Offends table.routes number line fault := by
  constructor
  · intro refused
    rcases addLine_cases table number line with ⟨undecodable, outcome⟩ |
      ⟨text, rfl, blank, outcome⟩ | ⟨text, reason, rfl, written, unread, outcome⟩ |
      ⟨text, route, rfl, read, outcome⟩
    · rw [outcome] at refused
      cases refused
      exact .notText undecodable
    · rw [outcome] at refused
      cases refused
    · rw [outcome] at refused
      cases refused
      exact .unreadable written unread
    · rw [outcome] at refused
      cases added : table.add route with
      | ok next =>
          rw [added] at refused
          cases refused
      | error reason =>
          obtain ⟨rfl, other, member, sameMask, sameNetwork⟩ := add_eq_error_iff.mp added
          rw [added] at refused
          cases refused
          exact .duplicate read member sameMask sameNetwork
  · intro offends
    cases offends with
    | notText undecodable => exact addLine_notText undecodable
    | unreadable written refused => exact addLine_unreadable written refused
    | @duplicate text route other read member sameMask sameNetwork =>
        rw [addLine_route read, add_eq_error_iff.mpr ⟨rfl, other, member, sameMask, sameNetwork⟩]
        rfl

/-- The pass over some lines succeeds exactly if all of them are sound and their routes can be
added one after the other. -/
theorem addLines_eq_ok_iff :
    table.addLines number lines = .ok extended ↔
      (∀ line ∈ lines, IsSound line) ∧ (routesOn lines).foldlM add table = .ok extended := by
  induction lines generalizing table number with
  | nil =>
      rw [addLines, routesOn, List.filterMap_nil, List.foldlM_nil]
      constructor
      · intro same
        cases same
        exact ⟨by simp, rfl⟩
      · rintro ⟨-, same⟩
        cases same
        rfl
  | cons line rest ih =>
      rw [routesOn_cons, List.foldlM_append, List.forall_mem_cons]
      cases taken : table.addLine number line with
      | error fault =>
          rw [addLines, taken]
          constructor
          · intro impossible
            cases impossible
          · rintro ⟨⟨sound, -⟩, folded⟩
            cases first : (routeOn? line).toList.foldlM add table with
            | error reason =>
                rw [first] at folded
                cases folded
            | ok next =>
                have accepted : table.addLine number line = .ok next :=
                  addLine_eq_ok_iff.mpr ⟨sound, first⟩
                rw [taken] at accepted
                cases accepted
      | ok next =>
          obtain ⟨sound, first⟩ := addLine_eq_ok_iff.mp taken
          rw [addLines, taken, first, and_assoc, and_iff_right sound]
          exact ih

/-- The pass over some lines ends at a line that is refused once those before it are taken. -/
theorem addLines_eq_error_iff :
    table.addLines number lines = .error fault ↔
      ∃ before line after reached, lines = before ++ line :: after ∧
        table.addLines number before = .ok reached ∧
        reached.addLine (number + before.length) line = .error fault := by
  induction lines generalizing table number with
  | nil => simp [addLines]
  | cons head rest ih =>
      cases taken : table.addLine number head with
      | error reason =>
          rw [addLines, taken]
          constructor
          · intro same
            cases same
            exact ⟨[], head, rest, table, rfl, rfl, taken⟩
          · rintro ⟨before, line, after, reached, split, passed, refused⟩
            cases before with
            | nil =>
                cases split
                cases passed
                rw [List.length_nil, Nat.add_zero, taken] at refused
                exact refused
            | cons first others =>
                cases split
                rw [addLines, taken] at passed
                cases passed
      | ok next =>
          rw [addLines, taken]
          change next.addLines (number + 1) rest = .error fault ↔ _
          rw [ih]
          constructor
          · rintro ⟨before, line, after, reached, rfl, passed, refused⟩
            refine ⟨head :: before, line, after, reached, rfl, ?_, ?_⟩
            · rw [addLines, taken]
              exact passed
            · rwa [List.length_cons, Nat.add_comm before.length 1, ← Nat.add_assoc]
          · rintro ⟨before, line, after, reached, split, passed, refused⟩
            cases before with
            | nil =>
                cases split
                cases passed
                rw [List.length_nil, Nat.add_zero, taken] at refused
                cases refused
            | cons first others =>
                cases split
                rw [addLines, taken] at passed
                rw [List.length_cons, Nat.add_comm others.length 1, ← Nat.add_assoc] at refused
                exact ⟨others, line, after, reached, rfl, passed, refused⟩

theorem addLines_empty_eq_ok_iff :
    empty.addLines 1 lines = .ok extended ↔
      Loadable lines ∧ extended.routes = routesOn lines := by
  rw [addLines_eq_ok_iff, foldlM_add_eq_ok_iff]
  exact ⟨fun accepted => ⟨⟨accepted.1, accepted.2.1⟩, accepted.2.2⟩,
    fun accepted => ⟨accepted.1.sound, accepted.1.apart, accepted.2⟩⟩

theorem addLines_empty_eq_error_iff :
    empty.addLines 1 lines = .error fault ↔ FirstOffence lines fault := by
  rw [addLines_eq_error_iff]
  constructor
  · rintro ⟨before, line, after, reached, split, passed, refused⟩
    obtain ⟨loadable, routesEq⟩ := addLines_empty_eq_ok_iff.mp passed
    rw [addLine_eq_error_iff, routesEq, Nat.add_comm] at refused
    exact ⟨before, line, after, split, loadable, refused⟩
  · rintro ⟨before, line, after, split, loadable, offends⟩
    have passed : empty.addLines 1 before = .ok ⟨routesOn before, loadable.apart⟩ :=
      addLines_empty_eq_ok_iff.mpr ⟨loadable, rfl⟩
    rw [Nat.add_comm] at offends
    exact ⟨before, line, after, _, split, passed, addLine_eq_error_iff.mpr offends⟩

theorem reload_eq_ok_iff {contents : Octets} :
    table.reload (some contents) = (extended, .ok ()) ↔
      Loadable (fileLines contents) ∧ extended.routes = routesOn (fileLines contents) := by
  rw [← addLines_empty_eq_ok_iff, reload, ofFile]
  cases empty.addLines 1 (fileLines contents) with
  | ok loaded => simp
  | error fault => simp

theorem reload_eq_error_iff {contents : Octets} :
    table.reload (some contents) = (extended, .error fault) ↔
      FirstOffence (fileLines contents) fault ∧ extended = table := by
  rw [← addLines_empty_eq_error_iff, reload, ofFile]
  cases empty.addLines 1 (fileLines contents) with
  | ok loaded => simp
  | error reason => simp [eq_comm, and_comm]

/-- A file splits into lines in exactly one way.  Loading it succeeds exactly if every line is
blank text or text that describes a route and no two of these routes have the same mask and lead
to the same network.  The table then holds these routes in the order of the file and nothing
else.

Otherwise the table stays as it was and the reason given is what is wrong with the first line
that offends, whatever stands on the lines after it.  A line of text that is neither blank nor a
route is reported by a sentence that begins with its number, where blank lines count.  A route
that clashes with one on an earlier line is reported by name. -/
theorem reload_all_or_nothing (table : RoutingTable) (contents : Octets) :
    ∃ lines, (∀ others, SplitsInto contents others ↔ others = lines) ∧
      ((∃ loaded, table.reload (some contents) = (loaded, .ok ())) ↔ Loadable lines) ∧
      (∀ loaded, table.reload (some contents) = (loaded, .ok ()) →
        loaded.routes = routesOn lines) ∧
      (¬ Loadable lines → ∃ fault, table.reload (some contents) = (table, .error fault)) ∧
      ∀ remaining fault, table.reload (some contents) = (remaining, .error fault) →
        remaining = table ∧
        ∃ before line after, lines = before ++ line :: after ∧ Loadable before ∧
          Offends (routesOn before) (before.length + 1) line fault ∧
          ∀ reported, fault = .configuration reported →
            (¬ IsSound line → ∃ reason : ConfigurationError, reported.message =
              "line " ++ toString (before.length + 1) ++ ": " ++ reason.message) ∧
            (IsSound line → ∃ route, routeOn? line = some route ∧
              reported.message = "duplicate route " ++ route.display) := by
  refine ⟨fileLines contents, fun others => splitsInto_iff, ?_, ?_, ?_, ?_⟩
  · constructor
    · rintro ⟨loaded, accepted⟩
      exact (reload_eq_ok_iff.mp accepted).1
    · intro loadable
      exact ⟨⟨routesOn (fileLines contents), loadable.apart⟩,
        reload_eq_ok_iff.mpr ⟨loadable, rfl⟩⟩
  · intro loaded accepted
    exact (reload_eq_ok_iff.mp accepted).2
  · intro unloadable
    cases outcome : table.reload (some contents) with
    | mk remaining result =>
      cases result with
      | ok done => exact absurd (reload_eq_ok_iff.mp outcome).1 unloadable
      | error fault =>
          obtain ⟨-, rfl⟩ := reload_eq_error_iff.mp outcome
          exact ⟨fault, rfl⟩
  · intro remaining fault refused
    obtain ⟨⟨before, line, after, split, loadable, offends⟩, unchanged⟩ :=
      reload_eq_error_iff.mp refused
    refine ⟨unchanged, before, line, after, split, loadable, offends, ?_⟩
    rintro reported rfl
    exact offends.message

-- The blank line counts, and the clash on the last line no longer matters.
example :
    (empty.reload (some (encodeText (" \n10.0.0.0 0.0.0.0 255.0.0.0 lan\r\n" ++
      "10.0.0.256 0.0.0.0 255.0.0.0 lan\n10.1.2.3 0.0.0.0 255.0.0.0 wan")))).2 =
      .error (.configuration (.onLine 3 (.invalidAddress "10.0.0.256"))) := by
  decide +kernel

end RoutingTable

end Ipv4Router
