import ImageBuild.Issue
import ImageBuild.Text.Blank
import ImageBuild.Json.Printer

namespace ImageBuild

/-!
# Errors — why a build request fails

A `ClientError` is a defect that shows before anything is sent, given by its cause; the wording of
every cause is in `ClientError.message`.  A `Failure` is whatever an operation may end with: such a
defect, a request that failed, an error of the system, or a bare value.
-/

/-- The kinds of defects that show before anything is sent. -/
inductive ErrorKind
  /-- A defect of no particular kind, with a code of its own. -/
  | general (code : String)
  | invalidDockerfileSpec
  | encoding
  | buildParam
  | context
deriving DecidableEq, Repr

namespace ErrorKind

/-- The name of the kind that all others belong to. -/
def commonName : String := "BuildClientError"

/-- The name of a kind. -/
def name : ErrorKind → String
  | .general _ => commonName
  | .invalidDockerfileSpec => "InvalidDockerfileSpecError"
  | .encoding => "EncodingError"
  | .buildParam => "BuildParamError"
  | .context => "ContextError"

/-- The code of a kind. -/
def code : ErrorKind → String
  | .general code => code
  | .invalidDockerfileSpec => "INVALID_DOCKERFILE_SPEC"
  | .encoding => "ENCODING_ERROR"
  | .buildParam => "INVALID_BUILD_PARAM"
  | .context => "CONTEXT_ERROR"

/-- The kind of a name; a general defect takes its code from `code`. -/
def ofName? (name code : String) : Option ErrorKind :=
  [general code, invalidDockerfileSpec, encoding, buildParam, context].find? (·.name == name)

/-- The names that an error of this kind answers to, in alphabetical order. -/
def lineage (kind : ErrorKind) : List String :=
  match kind with
  | .general _ => [commonName]
  | _ => [commonName, kind.name]

/-- Whether an error of this kind remembers the error that caused it. -/
def keepsCause : ErrorKind → Bool
  | .general _ | .encoding | .context => true
  | .invalidDockerfileSpec | .buildParam => false

end ErrorKind

/-- A defect that shows before anything is sent, by its cause. -/
inductive ClientError
  | emptyDockerfile
  | nulInDockerfile
  | headerNotBase64
  | headerNotJson
  | invalidCredentials (issues : List Issue)
  | storedAuthNotBase64
  | storedAuthWithoutColon
  | configNotObject
  | authsNotObject
  | entryNotObject (registry : String)
  | noContext
  | invalidOption (issue : Issue)
  | invalidTag (tag : String)
  | cannotRelocate (source reason : String)
  | cannotStart (command reason : String)
  | archiverFailed (command : String) (exitCode : Option Nat) (complaint : String)
  /-- A defect that a collaborator reports in its own words. -/
  | reported (kind : ErrorKind) (message : String)
deriving DecidableEq, Repr

namespace ClientError

/-- The kind of a defect. -/
def kind : ClientError → ErrorKind
  | .emptyDockerfile | .nulInDockerfile => .invalidDockerfileSpec
  | .headerNotBase64 | .headerNotJson | .invalidCredentials _ | .storedAuthNotBase64
  | .storedAuthWithoutColon | .configNotObject | .authsNotObject | .entryNotObject _ => .encoding
  | .noContext | .invalidOption _ | .invalidTag _ => .buildParam
  | .cannotRelocate .. | .cannotStart .. | .archiverFailed .. => .context
  | .reported kind _ => kind

/-- An exit code in a message; a process that was killed has none. -/
def exitText : Option Nat → String
  | some n => toString n
  | none => "null"

/-- The wording of a defect. -/
def message : ClientError → String
  | .emptyDockerfile => "Dockerfile path must not be empty"
  | .nulInDockerfile => "Dockerfile path must not contain NUL characters"
  | .headerNotBase64 => "Registry config header is not base64"
  | .headerNotJson => "Registry config header does not contain JSON"
  | .invalidCredentials issues => "Invalid registry auth config: " ++ Issue.describeAll issues
  | .storedAuthNotBase64 => "Stored registry auth is not base64"
  | .storedAuthWithoutColon => "Stored registry auth is not in username:password form"
  | .configNotObject => "Client config must be a JSON object"
  | .authsNotObject => "\"auths\" in client config must be an object"
  | .entryNotObject registry => "Registry entry for " ++ registry ++ " must be an object"
  | .noContext => "Either path or fileobj must be provided"
  | .invalidOption issue =>
    "Invalid build option " ++ issue.place ++ ": " ++ issue.problem.message
  | .invalidTag tag => "invalid tag '" ++ tag ++ "': invalid reference format"
  | .cannotRelocate source reason =>
    "Cannot relocate Dockerfile " ++ source ++ ": " ++ reason
  | .cannotStart command reason => "Failed to start " ++ command ++ ": " ++ reason
  | .archiverFailed command exitCode complaint =>
    command ++ " exited with code " ++ exitText exitCode ++ ": " ++
      String.ofList (Text.trim complaint.toList)
  | .reported _ message => message

end ClientError

/-- A request that failed on its way to the daemon or there. -/
structure RequestFailure where
  /-- Whether the failure is known to come from a request; only then its answer counts. -/
  fromRequest : Bool
  name : String
  message : String
  /-- The status of the daemon's answer, if there was an answer; an answer may lack one. -/
  answer : Option (Option Json)
deriving Repr

/-- What an operation may end with other than a result. -/
inductive Failure
  | client (error : ClientError)
  | request (failure : RequestFailure)
  | system (name message : String)
  | value (value : Json)
  /-- Nothing was tried, so there is nothing to tell. -/
  | nothing
deriving Repr, Inhabited

namespace Failure

/-- An error of the system without a name of its own. -/
def plain (message : String) : Failure := .system "Error" message

/-- What a value ends with that is used as one of a kind that it is not. -/
def misuse (message : String) : Failure := .system "TypeError" message

/-- What is wrong with a value of another kind than the operation takes.  The message is not
    fixed. -/
def wrongKind : Failure := misuse "value of an unusable kind"

/-- The name of a failure. -/
def name : Failure → String
  | .client e => e.kind.name
  | .request f => f.name
  | .system name _ => name
  | .value v =>
    match v with
    | .null | .array _ | .object _ => "object"
    | v => v.kind.name
  | .nothing => "undefined"

/-- The wording of a failure. -/
def message : Failure → String
  | .client e => e.message
  | .request f => f.message
  | .system _ message => message
  | .value v => v.plainText
  | .nothing => "undefined"

/-- The wording of a failure, if it has one: a bare value may have none. -/
def message? (f : Failure) : Option String :=
  match f with
  | .value v => v.plainText?
  | f => some f.message

/-- The code of a failure, which client errors alone have. -/
def code? : Failure → Option String
  | .client e => some e.kind.code
  | _ => none

/-- A failure as one line: its name, and its message unless that is empty. -/
def title (f : Failure) : String :=
  if f.message.isEmpty then f.name else f.name ++ ": " ++ f.message

/-- The status of the answer to a failed request: nothing when this is no failed request or no
    answer came. -/
def answer? : Failure → Option (Option Json)
  | .request f => if f.fromRequest then f.answer else none
  | _ => none

end Failure

end ImageBuild
