import ImageBuild.Registry.Header

namespace ImageBuild.Registry

/-!
# Stored credentials — the client config file

Each registry has an entry with an identity token, a base64 text of `username:password`, or both
names in the clear; the first of these that is there counts.  The current layout keeps the entries
under `auths`; the older one is the file itself, which also holds members that are no entries.
-/

/-- What a stored entry gives for its registry. -/
inductive StoredCredentials
  | token (identityToken serverAddress : String)
  | login (username password : String) (email : Option String) (serverAddress : String)
  | nothing
deriving DecidableEq, Repr

namespace StoredCredentials

/-- The credentials of a stored entry. -/
def credentials : StoredCredentials → Credentials
  | .token identityToken serverAddress =>
    { identityToken := .text identityToken, serverAddress := .text serverAddress }
  | .login username password email serverAddress =>
    { username := .text username
      password := .text password
      email := email.elim .null .text
      serverAddress := .text serverAddress }
  | .nothing => {}

/-- The credentials of a stored entry as an object, in the order in which they were found. -/
def toJson : StoredCredentials → Json
  | .token identityToken serverAddress =>
    .object [("identitytoken", .string identityToken), ("serveraddress", .string serverAddress)]
  | .login username password email serverAddress =>
    .object [("username", .string username), ("password", .string password),
      ("email", email.elim .null .string), ("serveraddress", .string serverAddress)]
  | .nothing => .object []

end StoredCredentials

/-- The username and the password in a base64 text, which the first colon separates. -/
def decodeAuth (auth : String) : Except ClientError (String × String) :=
  if Text.Base64.isWellFormed auth.toList then
    match (textOf auth).span (· ≠ ':') with
    | (username, _ :: password) => .ok (String.ofList username, String.ofList password)
    | (_, []) => .error .storedAuthWithoutColon
  else .error .storedAuthNotBase64

/-- The credentials of the entry that is stored for a registry. -/
def credentialsOfEntry (registry : String) (entry : Members Json) :
    Except ClientError StoredCredentials :=
  let field (name : String) : Option String := (entry.get? name).bind Json.nonEmptyString?
  match field "identitytoken", field "auth", field "username", field "password" with
  | some token, _, _, _ => .ok (.token token registry)
  | none, some auth, _, _ => do
    let (username, password) ← decodeAuth auth
    return .login username password (field "email") registry
  | none, none, some username, some password =>
    .ok (.login username password (field "email") registry)
  | _, _, _, _ => .ok .nothing

/-- The layouts of a client config file. -/
inductive FileLayout
  | current
  | legacy
deriving DecidableEq, Repr

/-- The entries in a client config file, before they are looked at. -/
def storedEntries (layout : FileLayout) (file : Members Json) :
    Except ClientError (Members Json) :=
  match layout with
  | .legacy => .ok file
  | .current =>
    match file.get? "auths" with
    | none | some .null => .ok []
    | some (.object auths) => .ok auths
    | some _ => .error .authsNotObject

/-- The credentials of each registry in turn, up to the first defect.  In the older layout members
    that are no objects are passed over. -/
def readEntries (layout : FileLayout) :
    Members Json → List (String × StoredCredentials) × Option ClientError
  | [] => ([], none)
  | (registry, .object entry) :: rest =>
    match credentialsOfEntry registry entry with
    | .ok found =>
      let (read, defect) := readEntries layout rest
      ((registry, found) :: read, defect)
    | .error defect => ([], some defect)
  | (registry, _) :: rest =>
    match layout with
    | .legacy => readEntries layout rest
    | .current => ([], some (.entryNotObject registry))

/-- What reading a client config file has to tell. -/
inductive Notice
  /-- The file names credential helpers, which are not asked. -/
  | helpersIgnored
  /-- The entry of a registry has no usable credentials. -/
  | nothingStored (registry : String)
deriving DecidableEq, Repr

/-- The wording of a notice. -/
def Notice.message : Notice → String
  | .helpersIgnored =>
    "Credential helpers are configured but not supported; only stored credentials are sent"
  | .nothingStored registry => "No usable credentials stored for registry " ++ registry

/-- Whether a client config file names credential helpers. -/
def namesHelpers (file : Members Json) : Bool := file.has "credsStore" || file.has "credHelpers"

/-- The registries in a client config file with their credentials, and what there is to tell up to
    the first defect. -/
def readFile (layout : FileLayout) (file : Json) :
    List Notice × Except ClientError (List (String × StoredCredentials)) :=
  match file with
  | .object members =>
    let helpers := if namesHelpers members then [Notice.helpersIgnored] else []
    match storedEntries layout members with
    | .error defect => (helpers, .error defect)
    | .ok entries =>
      let (read, defect) := readEntries layout entries
      let bare := read.filterMap fun (registry, found) =>
        if found = .nothing then some (Notice.nothingStored registry) else none
      (helpers ++ bare, match defect with
        | none => .ok read
        | some defect => .error defect)
  | _ => ([], .error .configNotObject)

/-- The source of credentials that the registries of a client config file make. -/
def sourceOfStored (stored : List (String × StoredCredentials)) : Source :=
  Source.ofEntries (stored.map fun (registry, found) => (registry, some found.toJson))

end ImageBuild.Registry
