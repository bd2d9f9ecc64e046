namespace ImageBuild.Text

/-!
# Units — lengths and cuts counted in 16-bit code units

A character beyond the basic plane counts as two units.  Half of such a pair may stand alone, as an
escape or after a cut; it is kept as a character of plane seven, which holds no characters, and is
written as the replacement character.
-/

/-- The character that stands for what cannot be read. -/
def replacement : Char := Char.ofNat 0xFFFD

/-- What a unit is kept as that is half of a pair and stands alone. -/
def loneHalf (unit : Nat) : Char := Char.ofNat (0x70000 + unit)

/-- The unit that a character stands for, if it is half of a pair.  The characters from U+7D800 to
    U+7DFFF cannot be told from such halves; they are not assigned. -/
def halfOf? (c : Char) : Option Nat :=
  if 0x7D800 ≤ c.toNat ∧ c.toNat < 0x7E000 then some (c.toNat - 0x70000) else none

/-- Whether two characters stand for the halves of one pair, so that neither is alone. -/
def isSplitPair (c d : Char) : Bool :=
  match halfOf? c, halfOf? d with
  | some first, some second => first < 0xDC00 && 0xDC00 ≤ second
  | _, _ => false

/-- The 16-bit units of a character. -/
def unitList (c : Char) : List Nat :=
  let n := c.toNat
  if n < 0x10000 then [n]
  else
    match halfOf? c with
    | some unit => [unit]
    | none => [0xD800 + (n - 0x10000) / 0x400, 0xDC00 + (n - 0x10000) % 0x400]

/-- How many 16-bit units a character takes. -/
def unitsOf (c : Char) : Nat := (unitList c).length

/-- The units of a text one by one, each as a text of its own. -/
def eachUnit (s : List Char) : List (List Char) :=
  s.flatMap fun c =>
    match unitList c with
    | [first, second] => [[loneHalf first], [loneHalf second]]
    | _ => [[c]]

/-- A text as it is written: for half of a pair that stands alone there is the replacement
    character. -/
def written (s : List Char) : List Char :=
  s.map fun c => if (halfOf? c).isSome then replacement else c

/-- The length of a text in units. -/
def unitLength : List Char → Nat
  | [] => 0
  | c :: s => unitsOf c + unitLength s

/-- The first `n` units of a text. -/
def takeUnits : Nat → List Char → List Char
  | _, [] => []
  | n, c :: s =>
    if n = 0 then []
    else if n < unitsOf c then (unitList c).take n |>.map loneHalf
    else c :: takeUnits (n - unitsOf c) s

/-- Whether a text comes strictly before another in the order of their units. -/
def unitsBefore (a b : List Char) : Bool :=
  (a.flatMap unitList) < (b.flatMap unitList)

end ImageBuild.Text
