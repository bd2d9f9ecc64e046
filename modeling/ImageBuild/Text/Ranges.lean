import ImageBuild.Text.Hex
import ImageBuild.Text.Split

namespace ImageBuild.Text

/-!
# Ranges — tables of characters, written as texts

A table is a text of words.  In a table of ranges each word is the hexadecimal code of a character,
or the codes of the first and the last character of a range with a hyphen between them, and perhaps
a slash and the step from one character to the next.  In a map, an equals sign and codes with commas
between them follow.
-/

/-- The number that hexadecimal digits spell. -/
def code (s : List Char) : Nat := s.foldl (fun n c => 16 * n + (hexValue? c).getD 0) 0

/-- Codes from a first one to a last one. -/
structure Range where
  first : Nat
  last : Nat
  step : Nat := 1
deriving DecidableEq, Repr

namespace Range

/-- Whether a code is in a range. -/
def has (r : Range) (n : Nat) : Bool := r.first ≤ n && n ≤ r.last && (n - r.first) % r.step == 0

/-- The range that a word of a table spells. -/
def ofWord (word : List Char) : Range :=
  let (ends, step) := match split (· == '/') word with
    | [ends, step] => (ends, code step)
    | _ => (word, 1)
  match split (· == '-') ends with
  | [first, last] => ⟨code first, code last, step⟩
  | _ => ⟨code ends, code ends, step⟩

end Range

/-- A class of characters. -/
abbrev Ranges := List Range

namespace Ranges

/-- The class that a table holds. -/
def ofText (table : String) : Ranges := (words table.toList).map Range.ofWord

/-- Whether a character is in a class. -/
def has (rs : Ranges) (c : Char) : Bool := rs.any fun r => r.has c.toNat

end Ranges

/-- Values for the characters of some ranges. -/
abbrev RangeMap := List (Range × List Nat)

namespace RangeMap

/-- The range and the values that a word of a table spells. -/
def entryOf (word : List Char) : Range × List Nat :=
  match split (· == '=') word with
  | [range, values] => (Range.ofWord range, (split (· == ',') values).map code)
  | _ => (Range.ofWord word, [])

/-- The map that a table holds. -/
def ofText (table : String) : RangeMap := (words table.toList).map entryOf

/-- The values for a character. -/
def find? (m : RangeMap) (c : Char) : Option (Range × List Nat) :=
  List.find? (fun entry => entry.1.has c.toNat) m

/-- The characters that a character is mapped to.  A single value belongs to the first character of
    its range, and the characters after it are mapped to those after the value. -/
def image? (m : RangeMap) (c : Char) : Option (List Char) :=
  (m.find? c).map fun (range, values) =>
    match values with
    | [value] => [Char.ofNat (value + (c.toNat - range.first))]
    | values => values.map Char.ofNat

/-- The number that a map gives for a character, zero for characters that it does not hold. -/
def number (m : RangeMap) (c : Char) : Nat := ((m.find? c).bind (·.2.head?)).getD 0

end RangeMap

end ImageBuild.Text
