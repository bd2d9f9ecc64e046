import ImageBuild.Json.Basic

namespace ImageBuild

/-!
# Issues — where a given value does not have the required form

An issue names the place by the members that lead to it, and says what is wrong there.
-/

/-- What is wrong with a value. -/
inductive Problem
  /-- There is no value. -/
  | missing
  /-- The value is of another kind than the required one. -/
  | wrongKind (expected received : Json.Kind)
  /-- The number is not an integer. -/
  | fraction
  /-- The number is below zero. -/
  | belowZero
  /-- The number is not above zero. -/
  | notAboveZero
  /-- The string is empty. -/
  | emptyString
  /-- The value is of none of the permitted kinds. -/
  | noPermittedKind
  /-- The name is none of the known ones. -/
  | unknownName (known : List String)
deriving DecidableEq, Repr

/-- A problem and the members that lead to it. -/
structure Issue where
  path : List String
  problem : Problem
deriving DecidableEq, Repr

/-- The wording of a problem. -/
def Problem.message : Problem → String
  | .missing => "Required"
  | .wrongKind expected received =>
    "Expected " ++ expected.name ++ ", received " ++ received.name
  | .fraction => "Expected integer, received float"
  | .belowZero => "Number must be greater than or equal to 0"
  | .notAboveZero => "Number must be greater than 0"
  | .emptyString => "String must contain at least 1 character(s)"
  | .noPermittedKind => "Invalid input"
  | .unknownName known =>
    "unknown container limit, expected one of: " ++ ", ".intercalate known

namespace Issue

/-- The place of an issue, its members joined by points. -/
def place (i : Issue) : String := ".".intercalate i.path

/-- The place of an issue, with a name for the value itself. -/
def namedPlace (i : Issue) : String := if i.place.isEmpty then "<root>" else i.place

/-- An issue as one item of a list. -/
def describe (i : Issue) : String := i.namedPlace ++ ": " ++ i.problem.message

/-- All issues of a value. -/
def describeAll (is : List Issue) : String := "; ".intercalate (is.map describe)

end Issue

end ImageBuild
