import ImageBuild.Registry.Credentials
import ImageBuild.Error

namespace ImageBuild.Registry

/-!
# Credential sources — credentials as they are given, before they are checked

A source has the form of a credential set when it is an object of objects whose credential fields
are strings or `null`; other members of the inner objects are passed over.  `Source.issues` lists
where it has another form, and `Source.check` reads the set when there is no such place.

Assigning under the reserved name gives no registry.  An object assigned there lends its members to
the source: they are checked with the others, but neither listed nor sent.  Where the reserved name
has lost its meaning, because the source lends from nothing or from an object that has a member of
this name, it is a name like any other; it is still not sent.
-/

/-- What a source falls back on for members that it does not have itself. -/
inductive Fallback
  /-- What every object falls back on. -/
  | usual
  /-- The members of an object, and then the usual. -/
  | lent (members : Members Json)
  | nothing
deriving Repr, Inhabited

/-- Whether the reserved name is a name like any other. -/
def Fallback.freesReservedName : Fallback → Bool
  | .usual => false
  | .lent members => members.has Members.reservedName
  | .nothing => true

/-- The members that are lent. -/
def Fallback.members : Fallback → Members Json
  | .lent members => members
  | _ => []

/-- Credentials as they are given. -/
inductive Source
  /-- Registries with what is given for each, if anything. -/
  | entries (own : Members (Option Json)) (fallback : Fallback)
  /-- A value that is no object. -/
  | other (value : Json)
deriving Repr, Inhabited

/-- What is wrong with the value of a credential field. -/
def fieldProblem? : Json → Option Problem
  | .null | .string _ => none
  | value => some (.wrongKind .string value.kind)

/-- What is wrong with what is given for one registry. -/
def entryIssues (registry : String) : Option Json → List Issue
  | some (.object members) =>
    Credentials.fieldNames.filterMap fun name =>
      ((Members.get? members name).bind fieldProblem?).map fun problem =>
        ⟨[registry, name], problem⟩
  | some value => [⟨[registry], .wrongKind .object value.kind⟩]
  | none => [⟨[registry], .missing⟩]

/-- The field that a value stands for. -/
def fieldOf : Option Json → Field
  | some (.string s) => .text s
  | some .null => .null
  | _ => .absent

/-- The credentials that a value without issues stands for. -/
def credentialsOf (entry : Json) : Credentials :=
  { username := fieldOf (entry.get? "username")
    password := fieldOf (entry.get? "password")
    email := fieldOf (entry.get? "email")
    serverAddress := fieldOf (entry.get? "serveraddress")
    identityToken := fieldOf (entry.get? "identitytoken") }

/-- The credential set that registries without issues stand for. -/
def credentialSetOf (own : Members (Option Json)) : CredentialSet :=
  (own.erase Members.reservedName).filterMap fun (registry, entry) =>
    entry.map fun entry => (registry, credentialsOf entry)

namespace Source

/-- The source that a value is. -/
def ofJson : Json → Source
  | .object members => .entries (members.map fun (registry, entry) => (registry, some entry)) .usual
  | value => .other value

/-- The value that shows a source: registries for which nothing is given do not show. -/
def toJson : Source → Json
  | .entries own _ =>
    .object (own.filterMap fun (registry, entry) => entry.map fun entry => (registry, entry))
  | .other value => value

/-! ### Assignment -/

/-- The registries of a source and what it falls back on, after a registry is given an entry. -/
def assign (own : Members (Option Json)) (fallback : Fallback) (registry : String)
    (entry : Option Json) : Members (Option Json) × Fallback :=
  if registry = Members.reservedName ∧ ¬ own.has registry ∧ ¬ fallback.freesReservedName then
    match entry with
    | some (.object members) => (own, .lent members)
    | some (.array items) => (own, .lent (Json.spread (.array items)))
    | some .null => (own, .nothing)
    | _ => (own, fallback)
  else (own.insert registry entry, fallback)

/-- The source that a list of registries and credentials gives: one that is listed twice has the
    last credentials at its first position. -/
def ofEntries (entries : List (String × Option Json)) : Source :=
  let (own, fallback) := entries.foldl
    (fun (own, fallback) (registry, entry) => assign own fallback registry entry) ([], .usual)
  .entries own fallback

/-- The registry and the entry that the first two parts of a value are.  What has no parts gives
    none. -/
def pair? (value : Json) : Option (String × Option Json) := do
  let parts ← value.parts?
  let registry ← match parts.head? with
    | some first => first.plainText?
    | none => some "undefined"
  return (registry, parts[1]?)

/-- The source that a value gives whose parts are registries and credentials in pairs. -/
def ofPairs? (value : Json) : Option Source := do
  return ofEntries (← (← value.parts?).mapM pair?)

/-! ### Checking -/

/-- The registries that a source lists. -/
def registries : Source → List String
  | .entries own _ => own.names
  | .other _ => []

/-- Whether a source counts as given. -/
def isPresent : Source → Bool
  | .entries .. => true
  | .other value => value.isPresent

/-- Whether a source has nothing to send. -/
def isEmpty : Source → Bool
  | .entries own _ => own.isEmpty
  | .other (.array items) => items.isEmpty
  | .other (.string s) => s.isEmpty
  | .other _ => true

/-- Where a source does not have the form of a credential set. -/
def issues : Source → List Issue
  | .entries own fallback =>
    let lent := (fallback.members.filter fun m => !own.has m.1).map fun (registry, entry) =>
      (registry, some entry)
    (own ++ lent).flatMap fun (registry, entry) => entryIssues registry entry
  | .other value => [⟨[], .wrongKind .object value.kind⟩]

/-- The credential set that a source without issues stands for. -/
def credentialSet : Source → CredentialSet
  | .entries own _ => credentialSetOf own
  | .other _ => []

/-- The credential set that a source stands for. -/
def check (source : Source) : Except ClientError CredentialSet :=
  match source.issues with
  | [] => .ok source.credentialSet
  | found => .error (.invalidCredentials found)

end Source

end ImageBuild.Registry
