import ImageBuild.DomainName.LabelTable

namespace ImageBuild.DomainName

/-!
# Labels — the parts of a domain name beyond ASCII

A label does not begin with a mark, has joiners only where letters join, and runs in one direction.
The direction is checked in labels that have a character which runs from right to left.
-/

/-! ### Joiners -/

/-- The joiner that keeps letters apart. -/
def nonJoiner : Char := Char.ofNat 0x200C

/-- The joiner that holds letters together. -/
def joiner : Char := Char.ofNat 0x200D

/-- Whether the characters before a joiner, nearest first, end in a virama. -/
def followsVirama (before : List Char) : Bool := before.head?.any viramas.has

/-- What the first joiner of a label says about it: nothing when there is none.  After a virama a
    joiner is right; elsewhere it has to keep letters apart that would join. -/
def joinerVerdict? (before : List Char) : List Char → Option Bool
  | [] => none
  | c :: s =>
    if c = nonJoiner then
      some (followsVirama before || (before.any joiningOnward.has && s.any joiningBack.has))
    else if c = joiner then some (followsVirama before)
    else joinerVerdict? (c :: before) s

/-! ### Direction -/

/-- How a character runs. -/
inductive Direction
  | rightward
  | leftward
  | arabicDigit
  | europeanDigit
  | spacelessMark
  | neutral
deriving DecidableEq, Repr

/-- The direction of a character. -/
def directionOf (c : Char) : Direction :=
  if leftwardLetters.has c then .leftward
  else if arabicDigits.has c then .arabicDigit
  else if europeanDigits.has c then .europeanDigit
  else if spacelessMarks.has c then .spacelessMark
  else if directionless.has c then .neutral
  else .rightward

/-- Whether some character runs from right to left. -/
def hasLeftward (ds : List Direction) : Bool :=
  ds.any fun d => d == .leftward || d == .arabicDigit

/-- Whether directions fit together in a label that has a character which runs from right to left:
    none runs from left to right, the digits are of one kind, and the last character with room of
    its own is a letter or digit. -/
def runsLeftward (ds : List Direction) : Bool :=
  let body := (ds.reverse.dropWhile (· == .spacelessMark)).reverse
  !body.contains .rightward && !(body.contains .arabicDigit && body.contains .europeanDigit) &&
    body.getLast?.any fun d => d == .leftward || d == .arabicDigit || d == .europeanDigit

/-- Whether the characters of a label fit together in their directions. -/
def hasOneDirection (label : List Char) : Bool :=
  let ds := label.map directionOf
  ds.any (· != .spacelessMark) && (!hasLeftward ds || runsLeftward ds)

/-! ### Labels -/

/-- Whether characters that can stand in a domain name make a label. -/
def isLabel (label : List Char) : Bool :=
  !label.head?.any marks.has && (joinerVerdict? [] label).getD (hasOneDirection label)

end ImageBuild.DomainName
