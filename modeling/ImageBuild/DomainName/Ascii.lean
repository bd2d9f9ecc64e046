import ImageBuild.DomainName.Label
import ImageBuild.DomainName.Mapping
import ImageBuild.DomainName.Punycode
import ImageBuild.Text.Composed

namespace ImageBuild.DomainName

/-!
# Domain names in ASCII — the form in which domain names are looked up

Every label with a character beyond ASCII is written in Punycode after the mark `xn--`.  A label
that has the mark already must be one that would be written so.
-/

/-- What the labels start with that are written in Punycode. -/
def punycodeMark : List Char := ['x', 'n', '-', '-']

/-- Whether all characters of a text are in ASCII. -/
def isAscii (s : List Char) : Bool := s.all (·.toNat < 0x80)

/-- Whether a text is the form in Punycode of a label. -/
def isEncodedLabel (s : List Char) : Bool :=
  (Text.dropWord? punycodeMark s).isNone &&
    match Punycode.decode? s with
    | none => false
    | some label =>
      !isAscii label && mapped? label == some label && Text.composed label == label &&
        isLabel label

/-- A label, whose characters are mapped and composed, in ASCII. -/
def labelInAscii? (label : List Char) : Option (List Char) :=
  match Text.dropWord? punycodeMark label with
  | some rest => if isAscii rest && isEncodedLabel rest then some label else none
  | none =>
    if isAscii label then some label
    else if isLabel label then some (punycodeMark ++ Punycode.encode label)
    else none

/-- A domain name in ASCII.  Labels may be empty, but not all of the name. -/
def inAscii? (name : List Char) : Option (List Char) := do
  let mapped ← mapped? name
  let text := if isAscii mapped then mapped else Text.composed mapped
  let labels ← (Text.split (· == '.') text).mapM labelInAscii?
  let result := Text.join '.' labels
  if result = [] then none else some result

end ImageBuild.DomainName
