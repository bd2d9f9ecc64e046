import ImageBuild.Json.Parser
import ImageBuild.Json.Printer
import ImageBuild.Text.Blank

namespace ImageBuild.Json

/-!
# Numeric values — the number that a value counts as where numbers are compared

A text counts as the number that it spells, in decimal or with a mark for another base, blanks at
its ends aside; the empty text is zero.  An array counts as its plain text does.  What spells no
number is undefined.
-/

/-- The number that digits in a base spell. -/
def inBase (base : Nat) (ds : List Char) : Number :=
  match ds.mapM fun c => (Text.hexValue? c).filter (· < base) with
  | some (d :: ds) => Number.ofDecimal false ((d :: ds).foldl (fun n d => base * n + d) 0) 0
  | _ => .undefined

/-- The number that a decimal text without a sign spells.  The digits before or after the point may
    be missing, but not both. -/
def unsigned (negative : Bool) (s : List Char) : Number :=
  if s = "Infinity".toList then .infinite negative
  else
    let (whole, rest) := s.span Char.isDigit
    let (fraction, rest) := match rest with
      | '.' :: rest => rest.span Char.isDigit
      | _ => ([], rest)
    match exponent? rest with
    | some (e, []) =>
      if whole ++ fraction = [] then .undefined
      else Number.ofDecimal negative (digitsValue (whole ++ fraction)) (e - fraction.length)
    | _ => .undefined

/-- The number that a text spells. -/
def spelled (s : List Char) : Number :=
  match Text.trim s with
  | [] => 0
  | '0' :: 'x' :: ds | '0' :: 'X' :: ds => inBase 16 ds
  | '0' :: 'o' :: ds | '0' :: 'O' :: ds => inBase 8 ds
  | '0' :: 'b' :: ds | '0' :: 'B' :: ds => inBase 2 ds
  | '-' :: ds => unsigned true ds
  | '+' :: ds => unsigned false ds
  | ds => unsigned false ds

/-- The number that a value counts as. -/
def numeric : Json → Number
  | .null => 0
  | .bool b => if b then 1 else 0
  | .number n => n
  | .string s => spelled s.toList
  | .array items => spelled (plainItems items)
  | .object _ => .undefined

end ImageBuild.Json
