import ImageBuild.Members
import ImageBuild.Number.Basic
import ImageBuild.Text.Units

namespace ImageBuild

/-!
# JSON values — what client config files, registry headers and query parameters are made of

Objects keep the order of their members as `Members` lists them.
-/

/-- A JSON value. -/
inductive Json
  | null
  | bool (value : Bool)
  | number (value : Number)
  | string (value : String)
  | array (items : List Json)
  | object (members : List (String × Json))
deriving Repr, Inhabited

namespace Json

/-- The kind of a JSON value. -/
inductive Kind
  | null
  | boolean
  | number
  | string
  | array
  | object
deriving DecidableEq, Repr

/-- The name of a kind in messages. -/
def Kind.name : Kind → String
  | .null => "null"
  | .boolean => "boolean"
  | .number => "number"
  | .string => "string"
  | .array => "array"
  | .object => "object"

/-- The kind of a value. -/
def kind : Json → Kind
  | .null => .null
  | .bool _ => .boolean
  | .number _ => .number
  | .string _ => .string
  | .array _ => .array
  | .object _ => .object

/-- The members of an object; nothing for any other value. -/
def members? : Json → Option (Members Json)
  | .object ms => some ms
  | _ => none

/-- The member of an object under a name. -/
def get? (value : Json) (name : String) : Option Json :=
  value.members?.bind (·.get? name)

/-- The text of a string value. -/
def string? : Json → Option String
  | .string s => some s
  | _ => none

/-- The text of a string value, unless it is empty. -/
def nonEmptyString? : Json → Option String
  | .string s => if s.isEmpty then none else some s
  | _ => none

/-- The items of an array, and the characters of a string one by one; no other value has parts. -/
def parts? : Json → Option (List Json)
  | .array items => some items
  | .string s => some (s.toList.map fun c => .string (String.singleton c))
  | _ => none

/-- The members of an object.  The items of an array and the units of a string are members named by
    their places; no other value has members. -/
def spread : Json → Members Json
  | .object ms => ms
  | .array items => numbered items
  | .string s => numbered ((Text.eachUnit s.toList).map fun unit => .string (String.ofList unit))
  | _ => []
where
  /-- Values named by their places. -/
  numbered (items : List Json) : Members Json := items.mapIdx fun i item => (toString i, item)

/-- Whether the length of a value is zero: an array without items, the empty string, or an object
    that says so of itself. -/
def hasNoLength : Json → Bool
  | .array items => items.isEmpty
  | .string s => s.isEmpty
  | .object ms =>
    match Members.get? ms "length" with
    | some (.number n) => n == .finite 0
    | _ => false
  | _ => false

/-- Whether a value counts as present where only its presence is asked for: the empty string, zero,
    `false` and `null` do not. -/
def isPresent : Json → Bool
  | .null => false
  | .bool b => b
  | .number n => n != .finite 0 && n != .undefined
  | .string s => !s.isEmpty
  | .array _ => true
  | .object _ => true

end Json

end ImageBuild
