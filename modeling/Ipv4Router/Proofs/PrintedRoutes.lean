import Ipv4Router.Proofs.DecimalAddresses
import Ipv4Router.Proofs.LoadedRoutes
import Mathlib.Data.List.Basic

/-!
# Printed routes are loaded again

A table is printed with one route on a line, each line ended by a line feed.  The text of a
route is four words between blanks, three of which are addresses.  It is therefore split into
the same fields again, as long as the name of the interface is a word: as long as something is
in it and no white space is.  Names that were read from a line are words, so whatever a route
was read from, its own text is read as the same route.

Line feeds and carriage returns are white space and hence in no word.  A file is cut at octets
and not at characters, but in the encoding of a text a small octet stands for nothing but the
character with its number.  So the lines of the printed table are the texts of its routes.
-/

namespace Ipv4Router

/-- A text that is not empty and holds no white space. -/
structure IsWord (text : List Char) : Prop where
  nonempty : text ≠ []
  solid : ∀ character ∈ text, isWhiteSpace character = false

theorem eq_false_of_mem_splitOnP {Member : Type} {separates : Member → Bool}
    {members piece : List Member} {member : Member} (pieceMem : piece ∈ members.splitOnP separates)
    (memberMem : member ∈ piece) : separates member = false := by
  induction members generalizing piece with
  | nil =>
      cases List.mem_singleton.mp pieceMem
      cases memberMem
  | cons first rest ih =>
      rw [List.splitOnP_cons_eq_if_modifyHead] at pieceMem
      by_cases separator : separates first = true
      · rw [if_pos separator, List.mem_cons] at pieceMem
        rcases pieceMem with rfl | later
        · cases memberMem
        · exact ih later memberMem
      · rw [if_neg separator] at pieceMem
        -- The first member is put in front of the first piece of the others.
        cases pieces : rest.splitOnP separates with
        | nil => exact absurd pieces (List.splitOnP_ne_nil separates rest)
        | cons head others =>
            rw [pieces, List.modifyHead_cons, List.mem_cons] at pieceMem
            rw [pieces] at ih
            rcases pieceMem with rfl | later
            · rcases List.mem_cons.mp memberMem with rfl | inHead
              · exact Bool.eq_false_iff.mpr separator
              · exact ih List.mem_cons_self inHead
            · exact ih (List.mem_cons_of_mem head later) memberMem

theorem isWord_of_mem_whiteSpaceFields {text field : List Char}
    (member : field ∈ whiteSpaceFields text) : IsWord field where
  nonempty := ne_nil_of_mem_whiteSpaceFields member
  solid := fun _ inField => eq_false_of_mem_splitOnP (List.mem_filter.mp member).1 inField

theorem whiteSpaceFields_append {word : List Char} (isWord : IsWord word) {separator : Char}
    (separates : isWhiteSpace separator = true) (rest : List Char) :
    whiteSpaceFields (word ++ separator :: rest) = word :: whiteSpaceFields rest := by
  have kept : (!word.isEmpty) = true := by simp [isWord.nonempty]
  rw [whiteSpaceFields, List.splitOnP_append_cons_of_forall_mem isWord.solid separator separates,
    List.filter_cons, if_pos kept, whiteSpaceFields]

/-- Words between blanks are the fields of the text they form. -/
theorem whiteSpaceFields_intercalate {words : List (List Char)}
    (areWords : ∀ word ∈ words, IsWord word) :
    whiteSpaceFields ([' '].intercalate words) = words := by
  induction words with
  | nil => rfl
  | cons word rest ih =>
      rw [List.forall_mem_cons] at areWords
      cases rest with
      | nil =>
          rw [List.intercalate_singleton]
          exact whiteSpaceFields_eq_singleton areWords.1.nonempty areWords.1.solid
      | cons next others =>
          rw [List.intercalate_cons_cons, List.append_assoc, List.singleton_append,
            whiteSpaceFields_append areWords.1 (by decide), ih areWords.2]

theorem mem_of_mem_intercalate {Member : Type} {separator : List Member}
    {pieces : List (List Member)} {member : Member}
    (inText : member ∈ separator.intercalate pieces) :
    member ∈ separator ∨ ∃ piece ∈ pieces, member ∈ piece := by
  induction pieces with
  | nil => cases inText
  | cons piece rest ih =>
      cases rest with
      | nil =>
          rw [List.intercalate_singleton] at inText
          exact Or.inr ⟨piece, List.mem_cons_self, inText⟩
      | cons next others =>
          rw [List.intercalate_cons_cons, List.append_assoc, List.mem_append, List.mem_append]
            at inText
          rcases inText with here | between | later
          · exact Or.inr ⟨piece, List.mem_cons_self, here⟩
          · exact Or.inl between
          · exact (ih later).imp_right fun ⟨other, otherMem, inOther⟩ =>
              ⟨other, List.mem_cons_of_mem piece otherMem, inOther⟩

theorem encodeText_eq_flatMap (text : String) :
    encodeText text = text.toList.flatMap String.utf8EncodeChar := by
  rw [encodeText, String.toUTF8, ← String.utf8Encode_toList, List.utf8Encode,
    List.toList_data_toByteArray]

theorem encodeText_append (first second : String) :
    encodeText (first ++ second) = encodeText first ++ encodeText second := by
  simp only [encodeText_eq_flatMap, String.toList_append, List.flatMap_append]

theorem encodeText_join (texts : List String) :
    encodeText (String.join texts) = texts.flatMap encodeText := by
  rw [encodeText_eq_flatMap, String.toList_join, List.flatMap_assoc]
  exact congrArg (texts.flatMap ·) (funext fun text => (encodeText_eq_flatMap text).symm)

/-- A character whose encoding holds an octet below 128 is the character with that number. -/
theorem toNat_of_mem_utf8EncodeChar {character : Char} {octet : UInt8} (small : octet.toNat < 128)
    (member : octet ∈ String.utf8EncodeChar character) : character.toNat = octet.toNat := by
  have code : character.val.toNat = character.toNat := rfl
  simp only [String.utf8EncodeChar, code] at member
  by_cases single : character.toNat ≤ 127
  · rw [if_pos single, List.mem_singleton] at member
    rw [member, UInt8.toNat_ofNat']
    omega
  · -- All octets of longer encodings have their top bit set.
    rw [if_neg single] at member
    exfalso
    split_ifs at member <;>
      simp only [List.mem_cons, List.not_mem_nil, or_false, ← UInt8.toNat_inj,
        UInt8.toNat_ofNat'] at member <;>
      omega

/-- The encoding of a text holds a small octet only if the character with its number is in the
text. -/
theorem exists_mem_of_mem_encodeText {text : String} {octet : UInt8} (small : octet.toNat < 128)
    (member : octet ∈ encodeText text) :
    ∃ character ∈ text.toList, character.toNat = octet.toNat := by
  rw [encodeText_eq_flatMap] at member
  obtain ⟨character, inText, encoded⟩ := List.mem_flatMap.mp member
  exact ⟨character, inText, toNat_of_mem_utf8EncodeChar small encoded⟩

/-- Lines without line breaks of their own, each ended by a line feed, are the lines of the file
they form. -/
theorem fileLines_flatMap {lines : List Octets} (unbroken : ∀ line ∈ lines, 10 ∉ line)
    (bare : ∀ line ∈ lines, 13 ∉ line) :
    fileLines (lines.flatMap (fun line => line ++ [10])) = lines := by
  induction lines with
  | nil => rfl
  | cons line rest ih =>
      rw [List.forall_mem_cons] at unbroken bare
      have lastBare : line.getLast? ≠ some 13 :=
        fun last => bare.1 (List.mem_of_getLast? last)
      rw [List.flatMap_cons, List.append_assoc, List.singleton_append,
        fileLines_append unbroken.1, withoutCarriageReturn_of_bare lastBare,
        ih unbroken.2 bare.2]

theorem bind_eq_ok_iff {Fault First Second : Type} {first : Except Fault First}
    {next : First → Except Fault Second} {result : Second} :
    first >>= next = .ok result ↔ ∃ value, first = .ok value ∧ next value = .ok result := by
  cases first with
  | error fault => simp [bind, Except.bind]
  | ok value => simp [bind, Except.bind]

theorem Ipv4Address.isWord_display (address : Ipv4Address) : IsWord address.display.toList where
  nonempty := by
    rw [display, writeOctets, String.toList_ofList, toOctets, List.map_cons, List.map_cons,
      List.intercalate_cons_cons]
    exact fun empty => by simp at empty
  solid := by
    intro character member
    rw [display, writeOctets, String.toList_ofList] at member
    rcases mem_of_mem_intercalate member with point | ⟨numeral, numeralMem, inNumeral⟩
    · rw [List.mem_singleton.mp point]
      decide
    · obtain ⟨octet, -, rfl⟩ := List.mem_map.mp numeralMem
      have digit : 48 ≤ character.toNat ∧ character.toNat ≤ 57 :=
        Char.isDigit_iff_toNat.mp (isDigit_of_mem_decimalNumeral inNumeral)
      rw [isWhiteSpace]
      simp
      omega

namespace Route

variable {route : Route} {line : String}

/-- A line is read as a route if its first four fields are read as the parts of the route. -/
theorem parse_eq_ok_iff :
    parse line = .ok route ↔ ∃ destination gateway mask interface others,
      whiteSpaceFields line.toList = destination :: gateway :: mask :: interface :: others ∧
      parseAddress destination = .ok route.destination ∧
      parseAddress gateway = .ok route.gateway ∧ parseAddress mask = .ok route.mask ∧
      String.ofList interface = route.interface := by
  rw [parse]
  split
  next destination gateway mask interface others fields =>
    simp only [bind_eq_ok_iff]
    constructor
    · rintro ⟨first, firstRead, second, secondRead, third, thirdRead, same⟩
      cases same
      exact ⟨destination, gateway, mask, interface, others, fields, firstRead, secondRead,
        thirdRead, rfl⟩
    · rintro ⟨first, second, third, fourth, further, same, firstRead, secondRead, thirdRead,
        named⟩
      rw [fields] at same
      cases same
      rw [named]
      exact ⟨_, firstRead, _, secondRead, _, thirdRead, rfl⟩
  next short =>
    constructor
    · intro impossible
      cases impossible
    · rintro ⟨first, second, third, fourth, further, same, -⟩
      exact absurd same (short first second third fourth further)

theorem parseAddress_display (address : Ipv4Address) :
    parseAddress address.display.toList = .ok address := by
  rw [parseAddress, String.ofList_toList, Ipv4Address.parse_display]

theorem isWord_interface (read : parse line = .ok route) : IsWord route.interface.toList := by
  obtain ⟨_, _, _, interface, _, fields, -, -, -, named⟩ := parse_eq_ok_iff.mp read
  have member : interface ∈ whiteSpaceFields line.toList := by simp [fields]
  rw [← named, String.toList_ofList]
  exact isWord_of_mem_whiteSpaceFields member

/-- The words that the text of a route consists of. -/
def words (route : Route) : List (List Char) :=
  [route.destination.display.toList, route.gateway.display.toList, route.mask.display.toList,
    route.interface.toList]

theorem toList_display (route : Route) :
    route.display.toList = [' '].intercalate route.words :=
  String.toList_intercalate

section Named

variable (named : IsWord route.interface.toList)
include named

theorem isWord_of_mem_words {word : List Char} (member : word ∈ route.words) : IsWord word := by
  simp only [words, List.mem_cons, List.not_mem_nil, or_false] at member
  rcases member with rfl | rfl | rfl | rfl
  · exact Ipv4Address.isWord_display _
  · exact Ipv4Address.isWord_display _
  · exact Ipv4Address.isWord_display _
  · exact named

theorem whiteSpaceFields_display : whiteSpaceFields route.display.toList = route.words := by
  rw [toList_display]
  exact whiteSpaceFields_intercalate fun _ => isWord_of_mem_words named

theorem parse_display : parse route.display = .ok route :=
  parse_eq_ok_iff.mpr ⟨_, _, _, _, [], whiteSpaceFields_display named,
    parseAddress_display _, parseAddress_display _, parseAddress_display _, String.ofList_toList⟩

/-- The only white space in the text of a route is the blanks between its words. -/
theorem eq_blank_of_mem_display {character : Char} (member : character ∈ route.display.toList)
    (white : isWhiteSpace character = true) : character = ' ' := by
  rw [toList_display] at member
  rcases mem_of_mem_intercalate member with blank | ⟨word, wordMem, inWord⟩
  · exact List.mem_singleton.mp blank
  · rw [(isWord_of_mem_words named wordMem).solid character inWord] at white
    cases white

theorem lineBreak_notMem_encodeText_display {octet : UInt8}
    (lineBreak : octet = 10 ∨ octet = 13) : octet ∉ encodeText route.display := by
  intro member
  have small : octet.toNat < 128 := by
    rcases lineBreak with rfl | rfl <;> decide
  obtain ⟨character, inText, code⟩ := exists_mem_of_mem_encodeText small member
  have white : isWhiteSpace character = true := by
    rw [isWhiteSpace, code]
    rcases lineBreak with rfl | rfl <;> rfl
  rw [eq_blank_of_mem_display named inText white] at code
  rcases lineBreak with rfl | rfl <;> exact absurd code (by decide)

end Named

/-- A route is read from its own text exactly if the name of its interface is a word. -/
theorem parse_display_iff : parse route.display = .ok route ↔ IsWord route.interface.toList :=
  ⟨isWord_interface, parse_display⟩

end Route

namespace RoutingTable

variable {table : RoutingTable}

/-- The text of a table: that of each of its routes on a line of its own. -/
def display (table : RoutingTable) : String :=
  String.join (table.routes.map (fun route => route.display ++ "\n"))

theorem encodeText_display (table : RoutingTable) :
    encodeText table.display =
      (table.routes.map (fun route => encodeText route.display)).flatMap
        (fun line => line ++ [10]) := by
  rw [display, encodeText_join, List.flatMap_map, List.flatMap_map]
  exact congrArg (table.routes.flatMap ·) (funext fun route => encodeText_append _ _)

theorem ofRoutes_routes (table : RoutingTable) : ofRoutes table.routes = .ok table :=
  ofRoutes_eq_ok_iff.mpr ⟨table.apart, rfl⟩

/-- The names in a table that was loaded from a file are words. -/
theorem isWord_of_reload {loaded : RoutingTable} {contents : Octets}
    (accepted : table.reload (some contents) = (loaded, .ok ())) {route : Route}
    (member : route ∈ loaded.routes) : IsWord route.interface.toList := by
  rw [(reload_eq_ok_iff.mp accepted).2, routesOn, List.mem_filterMap] at member
  obtain ⟨line, -, onLine⟩ := member
  rw [routeOn?, Option.bind_eq_some_iff] at onLine
  obtain ⟨text, -, read⟩ := onLine
  cases parsed : Route.parse text with
  | error fault =>
      rw [parsed] at read
      cases read
  | ok other =>
      rw [parsed] at read
      cases read
      exact Route.isWord_interface parsed

section Named

variable (named : ∀ route ∈ table.routes, IsWord route.interface.toList)
include named

theorem fileLines_display :
    fileLines (encodeText table.display) =
      table.routes.map (fun route => encodeText route.display) := by
  rw [encodeText_display]
  apply fileLines_flatMap
  · rw [List.forall_mem_map]
    exact fun route member =>
      Route.lineBreak_notMem_encodeText_display (named route member) (Or.inl rfl)
  · rw [List.forall_mem_map]
    exact fun route member =>
      Route.lineBreak_notMem_encodeText_display (named route member) (Or.inr rfl)

theorem routesOn_display :
    routesOn (fileLines (encodeText table.display)) = table.routes := by
  have read : ∀ route ∈ table.routes,
      (routeOn? ∘ fun route => encodeText route.display) route = some (id route) := by
    intro route member
    rw [Function.comp_apply, routeOn?_encodeText, Route.parse_display (named route member)]
    rfl
  rw [fileLines_display named, routesOn, List.filterMap_map,
    List.filterMap_eq_map_iff_forall_eq_some.mpr read, List.map_id]

theorem reload_display (other : RoutingTable) :
    other.reload (some (encodeText table.display)) = (table, .ok ()) := by
  refine reload_eq_ok_iff.mpr ⟨⟨?_, ?_⟩, (routesOn_display named).symm⟩
  · rw [fileLines_display named, List.forall_mem_map]
    intro route member
    exact isSound_encodeText.mpr (Or.inr ⟨route, Route.parse_display (named route member)⟩)
  · rw [routesOn_display named]
    exact table.apart

end Named

/-- A table whose routes have names of interfaces that are words is loaded from its own text, and
the routes come in the same order.  The tables that were loaded from a file are of that kind.  So
is every single route that was read from a line: it is read from its own text again, whatever
the line looked like.

There are no other such tables and routes, and every table is built by adding its routes in their
order. -/
theorem printed_routes_reload :
    (∀ table : RoutingTable, ofRoutes table.routes = .ok table ∧
      ∀ other : RoutingTable, other.reload (some (encodeText table.display)) = (table, .ok ()) ↔
        ∀ route ∈ table.routes, IsWord route.interface.toList) ∧
    (∀ (table loaded : RoutingTable) (contents : Octets),
      table.reload (some contents) = (loaded, .ok ()) →
        ∀ route ∈ loaded.routes, IsWord route.interface.toList) ∧
    (∀ (line : String) (route : Route), Route.parse line = .ok route →
      Route.parse route.display = .ok route) ∧
    ∀ route : Route, Route.parse route.display = .ok route ↔ IsWord route.interface.toList := by
  refine ⟨fun table => ⟨ofRoutes_routes table, fun other => ⟨?_, ?_⟩⟩, ?_, ?_, ?_⟩
  · exact fun accepted _ => isWord_of_reload accepted
  · exact fun named => reload_display named other
  · exact fun _ _ _ accepted _ => isWord_of_reload accepted
  · exact fun _ _ read => Route.parse_display (Route.isWord_interface read)
  · exact fun _ => Route.parse_display_iff

/-- A line with a plus sign, leading zeros, white space of several kinds and a fifth field. -/
def liberalLine : String :=
  "\t+010.0.0.1\u00a00.0.0.0 255.00.0.0\u3000lan further"

theorem printed_routes_reload_liberal_line :
    ∃ loaded, empty.reload (some (encodeText (liberalLine ++ "\r\n \n"))) = (loaded, .ok ()) ∧
      loaded.display = "10.0.0.1 0.0.0.0 255.0.0.0 lan\n" ∧
      (∀ route ∈ loaded.routes, IsWord route.interface.toList) ∧
      (∀ other : RoutingTable, other.reload (some (encodeText loaded.display)) =
        (loaded, .ok ())) ∧
      ∀ route ∈ loaded.routes,
        Route.parse liberalLine = .ok route ∧ Route.parse route.display = .ok route := by
  let outcome := empty.reload (some (encodeText (liberalLine ++ "\r\n \n")))
  have accepted : outcome = (outcome.1, .ok ()) := Prod.ext rfl (by decide +kernel)
  have named := printed_routes_reload.2.1 empty outcome.1 _ accepted
  have read : ∀ route ∈ outcome.1.routes, Route.parse liberalLine = .ok route := by
    decide +kernel
  refine ⟨outcome.1, accepted, by decide +kernel, named, ?_, ?_⟩
  · exact fun other => ((printed_routes_reload.1 outcome.1).2 other).mpr named
  · exact fun route member => ⟨read route member,
      printed_routes_reload.2.2.1 liberalLine route (read route member)⟩

end RoutingTable

end Ipv4Router
