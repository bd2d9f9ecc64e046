import ImageBuild.Text.Blank
import ImageBuild.Text.Front

namespace ImageBuild.Log

/-!
# Masking — log messages without their secrets

Three rules are applied one after the other, each from the front of the message to its end.  A rule
looks for one of its words in any mix of letter cases, for what links the word to a value, and for
the longest value that follows; it keeps the word and the link, and puts four stars for the value.
-/

/-- What stands for a secret. -/
def stars : List Char := ['*', '*', '*', '*']

/-- A word that announces a secret. -/
structure Cue where
  /-- The word in small letters. -/
  word : List Char
  /-- Whether the word must stand alone: no letter, digit or underscore next to it. -/
  alone : Bool := false

/-- A rule for finding secrets. -/
structure Rule where
  cues : List Cue
  /-- What follows the link between word and value, if there is a link. -/
  afterLink : List Char → Option (List Char)
  /-- Which characters belong to the value. -/
  isValue : Char → Bool

/-- Whether a neighbour of a word is no part of it. -/
def isOutside (neighbour : Option Char) : Bool := !neighbour.any Text.isWordChar

/-- What follows a cue at the front of a text that `before` precedes. -/
def Cue.after? (cue : Cue) (before : Option Char) (s : List Char) : Option (List Char) :=
  match Text.dropAnyCase? cue.word s with
  | some rest =>
    if cue.alone && !(isOutside before && isOutside rest.head?) then none else some rest
  | none => none

/-- What follows the announcement of a secret at the front of a text: a cue and a link, with a value
    after them. -/
def Rule.valueAt? (rule : Rule) (before : Option Char) (s : List Char) : Option (List Char) :=
  rule.cues.findSome? fun cue =>
    match (cue.after? before s).bind rule.afterLink with
    | some (c :: value) => if rule.isValue c then some (c :: value) else none
    | _ => none

/-- The text with the secrets of a rule masked.  The first `skip` characters belong to what has been
    written already, and `before` precedes them. -/
def Rule.maskFrom (rule : Rule) : Nat → Option Char → List Char → List Char
  | _, _, [] => []
  | skip + 1, _, c :: s => maskFrom rule skip (some c) s
  | 0, before, c :: s =>
    match rule.valueAt? before (c :: s) with
    | some value =>
      let announced := (c :: s).take ((c :: s).length - value.length)
      let secret := value.takeWhile rule.isValue
      announced ++ stars ++
        maskFrom rule (announced.length + secret.length - 1) (some c) s
    | none => c :: maskFrom rule 0 (some c) s

/-- The text with the secrets of a rule masked. -/
def Rule.mask (rule : Rule) (s : List Char) : List Char := rule.maskFrom 0 none s

/-! ### The rules -/

/-- A quotation mark of either sort, dropped from the front of a text that has one. -/
def dropQuote : List Char → List Char
  | c :: s => if c = '"' ∨ c = Char.ofNat 0x27 then s else c :: s
  | [] => []

/-- Some blank characters. -/
def afterBlanks (s : List Char) : Option (List Char) :=
  match s with
  | c :: rest => if Text.isBlank c then some (rest.dropWhile Text.isBlank) else none
  | [] => none

/-- A colon or an equals sign, with blanks around it, a quotation mark before them and one after. -/
def afterAssignment (s : List Char) : Option (List Char) :=
  match (dropQuote s).dropWhile Text.isBlank with
  | c :: rest =>
    if c = ':' ∨ c = '=' then some (dropQuote (rest.dropWhile Text.isBlank)) else none
  | [] => none

/-- Bearer tokens, up to the next blank. -/
def bearerRule : Rule :=
  { cues := [⟨"bearer".toList, false⟩]
    afterLink := afterBlanks
    isValue := fun c => !Text.isBlank c }

/-- Encoded registry credentials, in the alphabets of base64. -/
def registryRule : Rule :=
  { cues := [⟨"x-registry-config".toList, false⟩, ⟨"x-registry-auth".toList, false⟩]
    afterLink := afterAssignment
    isValue := fun c => c.isAlphanum || c == '_' || c == '-' || c == '+' || c == '/' || c == '=' }

/-- Values of names that sound secret, up to the next blank, quotation mark, comma or brace. -/
def assignmentRule : Rule :=
  { cues := [⟨"password".toList, false⟩, ⟨"secret".toList, false⟩, ⟨"token".toList, false⟩,
      ⟨"identitytoken".toList, false⟩, ⟨"auth".toList, true⟩, ⟨"authorization".toList, false⟩]
    afterLink := afterAssignment
    isValue := fun c => !(Text.isBlank c || c == '"' || c == Char.ofNat 0x27 || c == ',' ||
      c == Char.ofNat 0x7B || c == Char.ofNat 0x7D) }

/-- A text without its secrets. -/
def maskChars (s : List Char) : List Char :=
  assignmentRule.mask (registryRule.mask (bearerRule.mask s))

/-- A message without its secrets. -/
def mask (message : String) : String := String.ofList (maskChars message.toList)

end ImageBuild.Log
