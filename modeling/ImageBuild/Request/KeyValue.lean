import ImageBuild.Json.Printer

namespace ImageBuild.Request

/-!
# Pairs — repeated options of the form `KEY=VALUE`
-/

/-- The key and the value of a pair, which the first `=` separates.  A pair without a key is none.
    -/
def keyValue? (pair : String) : Option (String × String) :=
  match pair.toList.span (· ≠ '=') with
  | ([], _) | (_, []) => none
  | (key, _ :: value) => some (String.ofList key, String.ofList value)

/-- The values of a repeated option after one more. -/
def collect (value : String) (previous : Option (List String)) : List String :=
  previous.getD [] ++ [value]

/-- Why the values of a repeated option give no members. -/
inductive PairDefect
  /-- A value is no pair. -/
  | notPair (text : String)
  /-- A value is of a kind that cannot be a pair. -/
  | wrongKind
deriving DecidableEq, Repr

/-- Whether a value is the text of an equals sign. -/
def isEquals : Json → Bool
  | .string s => s == "="
  | _ => false

/-- The pair that a value is.  An array is none, unless an equals sign among its items hides
    that. -/
def pairOf : Json → Except PairDefect (String × String)
  | .string s =>
    match keyValue? s with
    | some pair => .ok pair
    | none => .error (.notPair s)
  | .array items =>
    match items.findIdx? isEquals, (Json.array items).plainText? with
    | some (_ + 1), _ | _, none => .error .wrongKind
    | _, some text => .error (.notPair text)
  | _ => .error .wrongKind

/-- The members that pairs give, a later pair replacing an earlier one of its key; the first defect
    otherwise. -/
def membersOf (pairs : List Json) : Except PairDefect (Members String) :=
  pairs.foldlM (fun members value =>
    match pairOf value with
    | .ok (key, value) => .ok (members.assign key value)
    | .error defect => .error defect) []

/-- The members that the values of a repeated option give; nothing when the option is not used. -/
def pairs? : Option Json → Except PairDefect (Option (Members String))
  | none => .ok none
  | some given =>
    if !given.isPresent || given.hasNoLength then .ok none
    else
      match given.parts? with
      | some pairs => some <$> membersOf pairs
      | none => .error .wrongKind

end ImageBuild.Request
