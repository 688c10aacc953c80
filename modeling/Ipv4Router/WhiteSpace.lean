/-!
# White space

Fields of a route line are separated by characters that have the Unicode
property `White_Space`.  This file holds the table of that property, which is
larger than the set of blanks of ASCII, and the splitting of a line into the
runs of characters between them.
-/

namespace Ipv4Router

/-- Whether a character has the Unicode property `White_Space`. -/
def isWhiteSpace (character : Char) : Bool :=
  let code := character.toNat
  (0x09 ≤ code && code ≤ 0x0D) || code == 0x20 || code == 0x85 || code == 0xA0 ||
    code == 0x1680 || (0x2000 ≤ code && code ≤ 0x200A) || code == 0x2028 ||
    code == 0x2029 || code == 0x202F || code == 0x205F || code == 0x3000

/-- The maximal runs of a text that hold no white space, in order. -/
def whiteSpaceFields (text : List Char) : List (List Char) :=
  (text.splitOnP isWhiteSpace).filter (fun field => !field.isEmpty)

theorem ne_nil_of_mem_whiteSpaceFields {text field : List Char}
    (member : field ∈ whiteSpaceFields text) : field ≠ [] := by
  have nonempty := (List.mem_filter.mp member).2
  cases field with
  | nil => simp at nonempty
  | cons first rest => simp

theorem whiteSpaceFields_eq_singleton {text : List Char} (nonempty : text ≠ [])
    (solid : ∀ character ∈ text, isWhiteSpace character = false) :
    whiteSpaceFields text = [text] := by
  rw [whiteSpaceFields, List.splitOnP_eq_singleton solid]
  cases text with
  | nil => exact absurd rfl nonempty
  | cons first rest => simp

end Ipv4Router
