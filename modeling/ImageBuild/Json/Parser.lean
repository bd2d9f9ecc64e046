import ImageBuild.Json.Basic
import ImageBuild.Text.Front
import ImageBuild.Text.Hex
import ImageBuild.Text.Units

namespace ImageBuild.Json

/-!
# Reading JSON — the value that a text denotes

The reader takes the exact grammar: blanks are space, tab, line feed and carriage return only, a
number has no leading zero, a string holds no raw control character, and nothing follows the value.
Escaped surrogates that pair up are one character; one that does not pair is kept as half of a
pair.
-/

/-- Whether a character may stand between the parts of a value. -/
def isSpace (c : Char) : Bool := c == ' ' || c == '\t' || c == '\n' || c == '\r'

/-- A text without the blanks at its front. -/
def skipSpace (s : List Char) : List Char := s.dropWhile isSpace

/-! ### Strings -/

/-- The number that four hexadecimal digits spell. -/
def hexCode? (a b c d : Char) : Option Nat := do
  let values ← [a, b, c, d].mapM Text.hexValue?
  return values.foldl (fun n v => 16 * n + v) 0

/-- The code of the character that a letter after a backslash stands for. -/
def escapeCode? (c : Char) : Option Nat :=
  match c with
  | '"' => some 34
  | '\\' => some 92
  | '/' => some 47
  | 'b' => some 8
  | 'f' => some 12
  | 'n' => some 10
  | 'r' => some 13
  | 't' => some 9
  | _ => none

/-- The codes of the characters of a string whose opening quote has been read, and what follows its
    closing quote. -/
def stringCodes? : List Char → Option (List Nat × List Char)
  | [] => none
  | '"' :: rest => some ([], rest)
  | '\\' :: 'u' :: a :: b :: c :: d :: rest => do
    let code ← hexCode? a b c d
    let (codes, rest) ← stringCodes? rest
    return (code :: codes, rest)
  | '\\' :: c :: rest => do
    let code ← escapeCode? c
    let (codes, rest) ← stringCodes? rest
    return (code :: codes, rest)
  | c :: rest =>
    if c.toNat < 0x20 || c == '\\' then none
    else do
      let (codes, rest) ← stringCodes? rest
      return (c.toNat :: codes, rest)

/-- Whether a code is the first half of a surrogate pair. -/
def isLeading (code : Nat) : Bool := 0xD800 ≤ code && code < 0xDC00

/-- Whether a code is the second half of a surrogate pair. -/
def isTrailing (code : Nat) : Bool := 0xDC00 ≤ code && code < 0xE000

/-- The character of a code that is no pair, but may be half of one. -/
def charOf (code : Nat) : Char :=
  if isLeading code || isTrailing code then Text.loneHalf code else Char.ofNat code

/-- The characters of a sequence of codes. -/
def charsOf : List Nat → List Char
  | [] => []
  | [code] => [charOf code]
  | code :: next :: rest =>
    if isLeading code && isTrailing next then
      Char.ofNat (0x10000 + (code - 0xD800) * 0x400 + (next - 0xDC00)) :: charsOf rest
    else charOf code :: charsOf (next :: rest)

/-- The string whose opening quote has been read, and what follows it. -/
def readString? (s : List Char) : Option (String × List Char) := do
  let (codes, rest) ← stringCodes? s
  return (String.ofList (charsOf codes), rest)

/-! ### Numbers -/

/-- The value of decimal digits. -/
def digitsValue (ds : List Char) : Nat := ds.foldl (fun n c => 10 * n + (c.toNat - '0'.toNat)) 0

/-- The integer part of a number: digits without a leading zero. -/
def integerDigits? (s : List Char) : Option (List Char × List Char) :=
  match s with
  | '0' :: rest => some (['0'], rest)
  | _ =>
    let (ds, rest) := s.span Char.isDigit
    if ds.isEmpty then none else some (ds, rest)

/-- The digits after a point, none when there is no point. -/
def fractionDigits? (s : List Char) : Option (List Char × List Char) :=
  match s with
  | '.' :: rest =>
    let (ds, rest) := rest.span Char.isDigit
    if ds.isEmpty then none else some (ds, rest)
  | _ => some ([], s)

/-- The power of ten after an `e` of either case, zero when there is none. -/
def exponent? (s : List Char) : Option (Int × List Char) :=
  match s with
  | c :: rest =>
    if c == 'e' || c == 'E' then
      let (negative, rest) := match rest with
        | '-' :: rest => (true, rest)
        | '+' :: rest => (false, rest)
        | _ => (false, rest)
      let (ds, rest) := rest.span Char.isDigit
      if ds.isEmpty then none
      else some ((if negative then -(digitsValue ds : Int) else digitsValue ds), rest)
    else some (0, s)
  | [] => some (0, [])

/-- The number at the front of a text, and what follows it. -/
def number? (s : List Char) : Option (Number × List Char) := do
  let (negative, s) := match s with
    | '-' :: rest => (true, rest)
    | _ => (false, s)
  let (whole, s) ← integerDigits? s
  let (fraction, s) ← fractionDigits? s
  let (e, s) ← exponent? s
  return (Number.ofDecimal negative (digitsValue (whole ++ fraction)) (e - fraction.length), s)

/-! ### Values -/

mutual

/-- The value at the front of a text, and what follows it.  `fuel` bounds the nesting and the number
    of parts; one more than the length of the text is enough. -/
def value? : Nat → List Char → Option (Json × List Char)
  | 0, _ => none
  | fuel + 1, s =>
    match skipSpace s with
    | '"' :: rest => do
      let (text, rest) ← readString? rest
      return (.string text, rest)
    | '[' :: rest =>
      match skipSpace rest with
      | ']' :: rest => some (.array [], rest)
      | _ => do
        let (items, rest) ← items? fuel rest
        return (.array items, rest)
    | '{' :: rest =>
      match skipSpace rest with
      | '}' :: rest => some (.object [], rest)
      | _ => do
        let (pairs, rest) ← pairs? fuel rest
        return (.object (Members.ofPairs pairs), rest)
    | 't' :: rest => do return (.bool true, ← Text.dropWord? ['r', 'u', 'e'] rest)
    | 'f' :: rest => do return (.bool false, ← Text.dropWord? ['a', 'l', 's', 'e'] rest)
    | 'n' :: rest => do return (.null, ← Text.dropWord? ['u', 'l', 'l'] rest)
    | s => do
      let (n, rest) ← number? s
      return (.number n, rest)

/-- The items of an array up to its closing bracket, and what follows it. -/
def items? : Nat → List Char → Option (List Json × List Char)
  | 0, _ => none
  | fuel + 1, s => do
    let (v, rest) ← value? fuel s
    match skipSpace rest with
    | ',' :: rest => do
      let (vs, rest) ← items? fuel rest
      return (v :: vs, rest)
    | ']' :: rest => return ([v], rest)
    | _ => none

/-- The members of an object up to its closing brace, as written, and what follows it. -/
def pairs? : Nat → List Char → Option (List (String × Json) × List Char)
  | 0, _ => none
  | fuel + 1, s =>
    match skipSpace s with
    | '"' :: rest => do
      let (name, rest) ← readString? rest
      match skipSpace rest with
      | ':' :: rest => do
        let (v, rest) ← value? fuel rest
        match skipSpace rest with
        | ',' :: rest => do
          let (ms, rest) ← pairs? fuel rest
          return ((name, v) :: ms, rest)
        | '}' :: rest => return ([(name, v)], rest)
        | _ => none
      | _ => none
    | _ => none

end

/-- The value that a whole text denotes. -/
def parse? (s : List Char) : Option Json :=
  match value? (s.length + 1) s with
  | some (v, rest) => if (skipSpace rest).isEmpty then some v else none
  | none => none

/-- The value that a string denotes. -/
def ofText? (s : String) : Option Json := parse? s.toList

end ImageBuild.Json
