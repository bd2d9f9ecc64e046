import ImageBuild.Error

namespace ImageBuild.Request

/-!
# Build options — what a caller may ask of a build

Options are given as an object whose members have arbitrary values.  `Options.issue?` finds the
first of the known members, in a fixed order, whose value does not have the required form, and
`Options.ofMembers` reads the options when there is none.  Unknown members are passed over, and so
is the reserved name in maps, once its value has been checked.
-/

/-- A limit on the containers of a build. -/
inductive Limit
  | number (value : Number)
  | text (value : String)
deriving DecidableEq, Repr

/-- The value of a limit. -/
def Limit.toJson : Limit → Json
  | .number value => .number value
  | .text value => .string value

/-- The options of a build. -/
structure Options where
  tag : Option String := none
  quiet : Option Bool := none
  noCache : Option Bool := none
  rm : Option Bool := none
  forceRm : Option Bool := none
  pull : Option Bool := none
  buildArgs : Option (Members String) := none
  labels : Option (Members String) := none
  target : Option String := none
  platform : Option String := none
  networkMode : Option String := none
  shmSize : Option Number := none
  cacheFrom : Option (List String) := none
  limits : Members Limit := []
deriving DecidableEq, Repr

/-- The names of the limits, in the order in which they are sent. -/
def limitNames : List String := ["memory", "memswap", "cpushares", "cpusetcpus"]

/-! ### The required forms -/

/-- A form that a value may have to have: where it does not, the first issue, named relative to the
    value. -/
abbrev Form := Json → Option Issue

namespace Form

/-- An issue of the value itself. -/
def here (problem : Problem) : Option Issue := some ⟨[], problem⟩

/-- An issue of a part, seen from the whole. -/
def within (name : String) (issue : Option Issue) : Option Issue :=
  issue.map fun i => { i with path := name :: i.path }

/-- A string. -/
def string : Form
  | .string _ => none
  | value => here (.wrongKind .string value.kind)

/-- A string that is not empty. -/
def filledString : Form
  | .string s => if s.isEmpty then here .emptyString else none
  | value => here (.wrongKind .string value.kind)

/-- A truth value. -/
def flag : Form
  | .bool _ => none
  | value => here (.wrongKind .boolean value.kind)

/-- An integer above zero. -/
def positiveInteger : Form
  | .number n =>
    if !n.isInteger then here .fraction
    else if !Number.lt 0 n then here .notAboveZero
    else none
  | value => here (.wrongKind .number value.kind)

/-- A limit: an integer not below zero, or a string that is not empty. -/
def limit : Form
  | .number n =>
    if !n.isInteger then here .fraction
    else if n.isNegative then here .belowZero
    else none
  | .string s => if s.isEmpty then here .emptyString else none
  | _ => here .noPermittedKind

/-- An object whose members all have one form. -/
def members (form : Form) : Form
  | .object ms => ms.findSome? fun (name, value) => within name (form value)
  | value => here (.wrongKind .object value.kind)

/-- An array whose items all have one form. -/
def items (form : Form) : Form
  | .array vs =>
    (vs.mapIdx fun i value => (toString i, value)).findSome? fun (name, value) =>
      within name (form value)
  | value => here (.wrongKind .array value.kind)

/-- An object of limits with known names only. -/
def limits : Form := fun value =>
  (members limit value).or
    (((value.members?.getD []).erase Members.reservedName).names.findSome? fun name =>
      if limitNames.contains name then none else within name (here (.unknownName limitNames)))

end Form

namespace Options

/-- The known members and their required forms, in the order in which they are checked. -/
def forms : List (String × Form) :=
  [("tag", .string), ("quiet", .flag), ("noCache", .flag), ("rm", .flag), ("forceRm", .flag),
   ("pull", .flag), ("buildArgs", .members .string), ("labels", .members .string),
   ("target", .filledString), ("platform", .filledString), ("networkMode", .filledString),
   ("shmSize", .positiveInteger), ("cacheFrom", .items .filledString),
   ("containerLimits", .limits)]

/-- The first issue of the given members. -/
def memberIssue? (given : Members Json) : Option Issue :=
  forms.findSome? fun (name, form) =>
    (given.get? name).bind fun value => Form.within name (form value)

/-- The first issue of given options. -/
def issue? : Form
  | .object given => memberIssue? given
  | value => Form.here (.wrongKind .object value.kind)

/-! ### Reading -/

/-- A truth value. -/
def flagOf : Json → Option Bool
  | .bool b => some b
  | _ => none

/-- A number. -/
def numberOf : Json → Option Number
  | .number n => some n
  | _ => none

/-- A limit. -/
def limitOf : Json → Option Limit
  | .number n => some (.number n)
  | .string s => some (.text s)
  | _ => none

/-- The members of an object, less the reserved name. -/
def mapOf {α : Type} (read : Json → Option α) (value : Json) : Option (Members α) :=
  value.members?.map fun ms =>
    (ms.erase Members.reservedName).filterMap fun (name, v) => (read v).map fun a => (name, a)

/-- The strings in an array. -/
def listOf : Json → Option (List String)
  | .array vs => some (vs.filterMap Json.string?)
  | _ => none

/-- The options that members without issues stand for. -/
def ofMembers (given : Members Json) : Options :=
  let read {α : Type} (name : String) (f : Json → Option α) : Option α := (given.get? name).bind f
  { tag := read "tag" Json.string?
    quiet := read "quiet" flagOf
    noCache := read "noCache" flagOf
    rm := read "rm" flagOf
    forceRm := read "forceRm" flagOf
    pull := read "pull" flagOf
    buildArgs := read "buildArgs" (mapOf Json.string?)
    labels := read "labels" (mapOf Json.string?)
    target := read "target" Json.string?
    platform := read "platform" Json.string?
    networkMode := read "networkMode" Json.string?
    shmSize := read "shmSize" numberOf
    cacheFrom := read "cacheFrom" listOf
    limits := (read "containerLimits" (mapOf limitOf)).getD [] }

/-- The options that given ones stand for. -/
def check (given : Json) : Except ClientError Options :=
  match issue? given with
  | some issue => .error (.invalidOption issue)
  | none => .ok (ofMembers (given.members?.getD []))

/-- The Dockerfile that given options ask for. -/
def dockerfile? (given : Json) : Option String := (given.get? "dockerfile").bind Json.string?

/-- What is wrong with the name of a Dockerfile. -/
def dockerfileError? (dockerfile : String) : Option ClientError :=
  if dockerfile.isEmpty then some .emptyDockerfile
  else if dockerfile.toList.contains '\x00' then some .nulInDockerfile
  else none

/-- Whether a value is the text of a NUL. -/
def isNul : Json → Bool
  | .string s => s.toList == ['\x00']
  | _ => false

/-- What is wrong with what is given for the Dockerfile.  Of a value that is no string only its
    length and its parts count, and it has to have them. -/
def dockerfileFailure? : Json → Option Failure
  | .string dockerfile => (dockerfileError? dockerfile).map .client
  | value =>
    if value.hasNoLength then some (.client .emptyDockerfile)
    else
      match value.parts? with
      | some parts => if parts.any isNul then some (.client .nulInDockerfile) else none
      | none => some .wrongKind

end Options

end ImageBuild.Request
