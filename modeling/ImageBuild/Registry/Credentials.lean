import ImageBuild.Members
import ImageBuild.Json.Basic

namespace ImageBuild.Registry

/-!
# Credentials — what the daemon is told about each registry

The credentials of one registry are five fields, each left out, given as nothing or given as a text.
A `CredentialSet` lists registries with their credentials in the order in which they are sent.
-/

/-- A field of the credentials of a registry. -/
inductive Field
  /-- The field is left out. -/
  | absent
  /-- The field is given as nothing. -/
  | null
  | text (value : String)
deriving DecidableEq, Repr, Inhabited

/-- The value that stands for a field; one that is left out has none. -/
def Field.toJson? : Field → Option Json
  | .absent => none
  | .null => some .null
  | .text value => some (.string value)

/-- The credentials of one registry. -/
structure Credentials where
  username : Field := .absent
  password : Field := .absent
  email : Field := .absent
  serverAddress : Field := .absent
  identityToken : Field := .absent
deriving DecidableEq, Repr, Inhabited

/-- Registries and their credentials, in the order in which they are sent. -/
abbrev CredentialSet := Members Credentials

namespace Credentials

/-- The names of the fields, in the order in which they are written. -/
def fieldNames : List String := ["username", "password", "email", "serveraddress", "identitytoken"]

/-- The fields, in the order of their names. -/
def fields (c : Credentials) : List Field :=
  [c.username, c.password, c.email, c.serverAddress, c.identityToken]

/-- Credentials as an object; fields that are left out are no members. -/
def toJson (c : Credentials) : Json :=
  .object ((fieldNames.zip c.fields).filterMap fun (name, field) =>
    field.toJson?.map fun value => (name, value))

end Credentials

/-- A credential set as an object. -/
def CredentialSet.toJson (set : CredentialSet) : Json :=
  .object (set.map fun (registry, c) => (registry, c.toJson))

end ImageBuild.Registry
