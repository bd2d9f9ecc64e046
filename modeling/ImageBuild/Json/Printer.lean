import ImageBuild.Json.Basic
import ImageBuild.Number.Decimal
import ImageBuild.Text.Hex
import ImageBuild.Text.Units

namespace ImageBuild.Json

/-!
# Printing JSON — the compact form, the indented form, and the plain text of a value

The compact form has no spaces.  A string escapes the quote, the backslash and the control
characters below the space, the usual five by a letter and the others by four small hexadecimal
digits, and so it escapes half of a pair that stands alone; every other character stands for itself.
A number that is not finite prints as `null`.
-/

/-- A character inside a printed string. -/
def escape (c : Char) : List Char :=
  if c = '"' then ['\\', '"']
  else if c = '\\' then ['\\', '\\']
  else if c = '\n' then ['\\', 'n']
  else if c = '\r' then ['\\', 'r']
  else if c = '\t' then ['\\', 't']
  else if c = Char.ofNat 8 then ['\\', 'b']
  else if c = Char.ofNat 12 then ['\\', 'f']
  else if c.toNat < 0x20 then
    '\\' :: 'u' :: Text.hexDigits 4 c.toNat
  else
    match Text.halfOf? c with
    | some unit => '\\' :: 'u' :: Text.hexDigits 4 unit
    | none => [c]

/-- The inside of a printed string.  A pair is one character of its own, so two characters that
    would stand for its halves are no halves, and each stands for itself. -/
def escapeAll : List Char → List Char
  | [] => []
  | [c] => escape c
  | c :: d :: s =>
    if Text.isSplitPair c d then c :: d :: escapeAll s else escape c ++ escapeAll (d :: s)

/-- A printed string. -/
def quote (s : List Char) : List Char := '"' :: escapeAll s ++ ['"']

/-- A printed number. -/
def numberText (n : Number) : List Char :=
  match n with
  | .finite _ => n.text.toList
  | _ => ['n', 'u', 'l', 'l']

mutual

/-- The compact form of a value. -/
def print : Json → List Char
  | .null => ['n', 'u', 'l', 'l']
  | .bool true => ['t', 'r', 'u', 'e']
  | .bool false => ['f', 'a', 'l', 's', 'e']
  | .number n => numberText n
  | .string s => quote s.toList
  | .array items => '[' :: printItems items ++ [']']
  | .object members => '{' :: printMembers members ++ ['}']

/-- Printed items, separated by commas. -/
def printItems : List Json → List Char
  | [] => []
  | [v] => print v
  | v :: vs => print v ++ ',' :: printItems vs

/-- Printed members, separated by commas. -/
def printMembers : List (String × Json) → List Char
  | [] => []
  | [(name, v)] => quote name.toList ++ ':' :: print v
  | (name, v) :: ms => quote name.toList ++ ':' :: print v ++ ',' :: printMembers ms

end

/-- The compact form of a value, as a string. -/
def text (value : Json) : String := String.ofList (print value)

/-- A line break and the indentation of a level. -/
def newline (level : Nat) : List Char := '\n' :: List.replicate (2 * level) ' '

mutual

/-- The form of a value with one item or member a line, indented by two spaces a level. -/
def printIndented (level : Nat) : Json → List Char
  | .array [] => ['[', ']']
  | .array (v :: vs) =>
    '[' :: indentedItems (level + 1) (v :: vs) ++ newline level ++ [']']
  | .object [] => ['{', '}']
  | .object (m :: ms) =>
    '{' :: indentedMembers (level + 1) (m :: ms) ++ newline level ++ ['}']
  | .null => ['n', 'u', 'l', 'l']
  | .bool true => ['t', 'r', 'u', 'e']
  | .bool false => ['f', 'a', 'l', 's', 'e']
  | .number n => numberText n
  | .string s => quote s.toList

/-- Items, each on a line of its own. -/
def indentedItems (level : Nat) : List Json → List Char
  | [] => []
  | [v] => newline level ++ printIndented level v
  | v :: vs => newline level ++ printIndented level v ++ ',' :: indentedItems level vs

/-- Members, each on a line of its own. -/
def indentedMembers (level : Nat) : List (String × Json) → List Char
  | [] => []
  | [(name, v)] => newline level ++ quote name.toList ++ ':' :: ' ' :: printIndented level v
  | (name, v) :: ms =>
    newline level ++ quote name.toList ++ ':' :: ' ' :: printIndented level v ++
      ',' :: indentedMembers level ms

end

/-- The indented form of a value, as a string. -/
def indentedText (value : Json) : String := String.ofList (printIndented 0 value)

mutual

/-- A value as plain text: strings as they are, arrays as their items joined by commas with `null`
    left out, every object alike. -/
def plain : Json → List Char
  | .null => ['n', 'u', 'l', 'l']
  | .bool true => ['t', 'r', 'u', 'e']
  | .bool false => ['f', 'a', 'l', 's', 'e']
  | .number n => n.text.toList
  | .string s => s.toList
  | .array items => plainItems items
  | .object _ => "[object Object]".toList

/-- Items as plain text, joined by commas. -/
def plainItems : List Json → List Char
  | [] => []
  | [.null] => []
  | [v] => plain v
  | .null :: vs => ',' :: plainItems vs
  | v :: vs => plain v ++ ',' :: plainItems vs

end

/-- A value as plain text, as a string. -/
def plainText (value : Json) : String := String.ofList (plain value)

mutual

/-- Whether a value has a plain text.  An object whose member `toString` stands in the way of the
    operation of that name has none. -/
def hasPlainText : Json → Bool
  | .array items => allHavePlainText items
  | .object members => !Members.has members "toString"
  | _ => true

/-- Whether all items have a plain text. -/
def allHavePlainText : List Json → Bool
  | [] => true
  | v :: vs => hasPlainText v && allHavePlainText vs

end

/-- A value as plain text, if it has one. -/
def plainText? (value : Json) : Option String :=
  if value.hasPlainText then some value.plainText else none

end ImageBuild.Json
