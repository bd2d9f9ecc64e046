import ImageBuild.Text.Split

namespace ImageBuild.Request

/-!
# Image tags — the grammar of the name that a built image gets

A tag is slash-separated components, where a port may follow the first and a version the last.  A
component is runs of small letters and digits with single separators between them: a point, one or
two underscores, or any number of hyphens.
-/

/-- Whether a character may stand in a run. -/
def isRunChar (c : Char) : Bool := ('a' ≤ c && c ≤ 'z') || c.isDigit

/-- Where the reader of a component is. -/
inductive ComponentState
  /-- A run has to begin. -/
  | start
  | run
  | point
  | underscore
  | twoUnderscores
  | hyphens
deriving DecidableEq, Repr

/-- Where a character takes the reader; nowhere when it cannot stand there. -/
def ComponentState.next? (state : ComponentState) (c : Char) : Option ComponentState :=
  if isRunChar c then some .run
  else
    match state, c with
    | .run, '.' => some .point
    | .run, '_' => some .underscore
    | .underscore, '_' => some .twoUnderscores
    | .run, '-' | .hyphens, '-' => some .hyphens
    | _, _ => none

/-- Whether the rest of a component leads to the end of a run. -/
def ComponentState.accepts : ComponentState → List Char → Bool
  | state, [] => state == .run
  | state, c :: s =>
    match state.next? c with
    | some next => next.accepts s
    | none => false

/-- Whether a text is a component. -/
def isComponent (s : List Char) : Bool := ComponentState.start.accepts s

/-- Whether a text is a port: one or more digits. -/
def isPort (s : List Char) : Bool := s ≠ [] && s.all Char.isDigit

/-- The number of characters that a version may have. -/
def maxVersionLength : Nat := 128

/-- Whether a text is a version: letters, digits, underscores, points and hyphens, the last two not
    at its front. -/
def isVersion : List Char → Bool
  | [] => false
  | c :: s =>
    (c.isAlphanum || c == '_') && s.length < maxVersionLength &&
      s.all fun c => c.isAlphanum || c == '_' || c == '.' || c == '-'

/-- Whether a text between slashes is the first component, with or without a port. -/
def isHead (s : List Char) : Bool :=
  match Text.split (· == ':') s with
  | [name] => isComponent name
  | [name, port] => isComponent name && isPort port
  | _ => false

/-- Whether a text after the last slash is the last component, with or without a version. -/
def isTail (s : List Char) : Bool :=
  match Text.split (· == ':') s with
  | [name] => isComponent name
  | [name, version] => isComponent name && isVersion version
  | _ => false

/-- Whether a text without slashes is a component with or without a port and a version. -/
def isWhole (s : List Char) : Bool :=
  match Text.split (· == ':') s with
  | [name] => isComponent name
  | [name, port] => isComponent name && (isPort port || isVersion port)
  | [name, port, version] => isComponent name && isPort port && isVersion version
  | _ => false

/-- Whether the pieces after the first slash are components, the last with or without a version. -/
def isRest : List (List Char) → Bool
  | [] => false
  | [last] => isTail last
  | piece :: pieces => isComponent piece && isRest pieces

/-- Whether a text is a tag. -/
def isTag (s : List Char) : Bool :=
  match Text.split (· == '/') s with
  | [] => false
  | [piece] => isWhole piece
  | piece :: pieces => isHead piece && isRest pieces

/-- Whether a string is a tag. -/
def isValidTag (tag : String) : Bool := isTag tag.toList

end ImageBuild.Request
