import ImageBuild.Text.Front
import ImageBuild.Text.LetterClasses

namespace ImageBuild.Text

/-!
# Small letters — the letter-case map under which Windows paths and header names compare

`lower` maps every capital letter to its small one.  Two letters are special: the dotted capital I
becomes two characters, and a capital sigma at the end of a word becomes the final form.
-/

/-- The small letters of a character; the character itself when it has none. -/
def lowerChar (c : Char) : List Char :=
  if c.toNat < 0x80 then [asciiLower c] else (capitals.image? c).getD [c]

/-- The capital sigma. -/
def capitalSigma : Char := Char.ofNat 0x3A3

/-- The small sigma at the end of a word. -/
def finalSigma : Char := Char.ofNat 0x3C2

/-- Whether the first character that counts is a letter with a case.  What words run through does
    not count. -/
def startsCased (s : List Char) : Bool :=
  match s.dropWhile insideWords.has with
  | c :: _ => casedLetters.has c
  | [] => false

/-- The small letters of a text that follows the characters `before`, nearest first. -/
def lowerFrom (before : List Char) : List Char → List Char
  | [] => []
  | c :: s =>
    let small :=
      if c = capitalSigma ∧ startsCased before ∧ ¬ startsCased s then [finalSigma]
      else lowerChar c
    small ++ lowerFrom (c :: before) s

/-- The small letters of a text. -/
def lower (s : List Char) : List Char := lowerFrom [] s

end ImageBuild.Text
