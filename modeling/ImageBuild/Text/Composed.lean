import ImageBuild.Text.CompositionTable

namespace ImageBuild.Text

/-!
# Composed texts — letters and their marks in one character where there is one

`composed` takes every composed character apart, puts the marks of each letter in the order of their
classes, and joins letters and marks again.  Characters that are written for a single other one are
not looked for; they do not stand in the texts that are composed here.
-/

/-! ### Hangul -/

/-- How many vowels there are in Hangul syllables. -/
def vowelCount : Nat := 21

/-- How many endings there are, with the empty one. -/
def endingCount : Nat := 28

/-- The parts of a Hangul syllable. -/
def syllableParts? (c : Char) : Option (Char × Char) :=
  let n := c.toNat - 0xAC00
  if c.toNat < 0xAC00 ∨ 0xD7A3 < c.toNat then none
  else if n % endingCount = 0 then
    some (Char.ofNat (0x1100 + n / (vowelCount * endingCount)),
      Char.ofNat (0x1161 + n / endingCount % vowelCount))
  else some (Char.ofNat (c.toNat - n % endingCount), Char.ofNat (0x11A7 + n % endingCount))

/-- The Hangul syllable of two parts. -/
def syllable? (a b : Char) : Option Char :=
  let m := a.toNat
  let n := b.toNat
  if 0x1100 ≤ m ∧ m < 0x1113 ∧ 0x1161 ≤ n ∧ n < 0x1161 + vowelCount then
    some (Char.ofNat (0xAC00 + ((m - 0x1100) * vowelCount + (n - 0x1161)) * endingCount))
  else if 0xAC00 ≤ m ∧ m ≤ 0xD7A3 ∧ (m - 0xAC00) % endingCount = 0 ∧ 0x11A7 < n ∧
      n < 0x11A7 + endingCount then
    some (Char.ofNat (m + (n - 0x11A7)))
  else none

/-! ### Pairs -/

/-- The pair that a character is written for. -/
def pairOf? (c : Char) : Option (Char × Char) :=
  (syllableParts? c).or
    (match pairTable.image? c with
    | some [a, b] => some (a, b)
    | _ => none)

/-- The character that is written for a pair. -/
def composite? (a b : Char) : Option Char :=
  (syllable? a b).or
    ((List.find? (fun entry => entry.2 == [a.toNat, b.toNat]) pairTable).map fun entry =>
      Char.ofNat entry.1.first)

/-- The class of a mark; letters have the class zero. -/
def markClass (c : Char) : Nat := markClassTable.number c

/-! ### Composing -/

/-- The parts of a character.  `depth` bounds how often a part has parts itself, which it has three
    times at most. -/
def partsOf : (depth : Nat) → Char → List Char
  | 0, c => [c]
  | depth + 1, c =>
    match pairOf? c with
    | some (a, b) => partsOf depth a ++ [b]
    | none => [c]

/-- A character put before a text whose marks are in order. -/
def insertMark (c : Char) : List Char → List Char
  | [] => [c]
  | d :: s =>
    if 0 < markClass d ∧ markClass d < markClass c then d :: insertMark c s else c :: d :: s

/-- The parts of all characters, the marks of each letter in the order of their classes. -/
def decomposed (s : List Char) : List Char := (s.flatMap (partsOf 4)).foldr insertMark []

/-- What becomes of a letter and what follows it.  `kept` holds the marks that do not join with the
    letter, and `last` the class of the last of them; a mark joins only over marks of lower
    classes. -/
def joinFrom (letter : Char) (kept : List Char) (last : Nat) : List Char → List Char
  | [] => letter :: kept
  | c :: s =>
    match if kept = [] ∨ last < markClass c then composite? letter c else none with
    | some joined => joinFrom joined kept last s
    | none =>
      if markClass c = 0 then letter :: kept ++ joinFrom c [] 0 s
      else joinFrom letter (kept ++ [c]) (markClass c) s

/-- Letters and marks joined. -/
def joined : List Char → List Char
  | [] => []
  | c :: s => if markClass c = 0 then joinFrom c [] 0 s else c :: joined s

/-- A text with its letters and marks joined as far as they can be. -/
def composed (s : List Char) : List Char := joined (decomposed s)

end ImageBuild.Text
