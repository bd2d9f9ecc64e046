import ImageBuild.FileTree
import ImageBuild.Registry.Header
import ImageBuild.Request.Params
import ImageBuild.Context.Dockerfile
import ImageBuild.Archive.Tar
import ImageBuild.Daemon.Endpoint
import ImageBuild.Log.Line
import ImageBuild.Report

namespace ImageBuild

/-!
# Sessions — what happens while the client runs

A session holds what the client works on, and records every effect in the order in which it happens.
An `Action` runs in a session and may fail; what has happened before stays recorded.
-/

/-- A connection to a daemon. -/
structure Connection where
  baseUrl : String
  socketPath : Option String
  userAgent : String
  timeout : Number
deriving DecidableEq, Repr

/-- A request to pack a context. -/
structure PackRequest where
  contextRoot : String
  resolved : Context.Resolution
deriving DecidableEq, Repr

/-- The body of a build request. -/
inductive Body
  | bytes (bytes : List UInt8)
  | stream (text : String)
  /-- A packed context, or what broke its stream off. -/
  | archive (content : Except ClientError Archive.Content)

/-- A request to the daemon. -/
inductive Call
  | get (path : String)
  | post (path : String) (params : Request.Params) (headers : Registry.Headers)
      (body : Option Body)

/-- The answer to a request. -/
inductive Answer
  | data (value : Json)
  | failure (failure : Failure)

/-- What happens while the client runs. -/
inductive Effect
  | log (line : Log.Line)
  | print (text : String)
  | connect (connection : Connection)
  | pack (request : PackRequest)
  | call (call : Call)
  | sleep (milliseconds : Number)
  | report (event : Report.Event)

/-- What the client works on, and what has happened. -/
structure Session where
  environment : Environment := {}
  version : Json := Settings.currentVersion
  files : FileTree := {}
  /-- What the system refuses to start for reasons of its own: it has no descriptors or memory left,
      say, or takes less of arguments. -/
  refusal? : (command : String) → (arguments : List String) → Option Failure := fun _ _ => none
  /-- The answers that the daemon will give. -/
  answers : List Answer := []
  /-- What a request ends with when there is no answer left. -/
  silence : Failure := .plain "no answer"
  /-- Random numbers still to come, before those that are all one half. -/
  draws : List Number := []
  verbose : Bool := false
  /-- Whether errors are reported. -/
  reporting : Bool := false
  trace : List Effect := []

/-- Something that runs in a session and may fail. -/
abbrev Action := ExceptT Failure (StateM Session)

namespace Action

variable {α : Type}

/-- Record an effect. -/
def emit (effect : Effect) : Action Unit :=
  modify fun s => { s with trace := s.trace ++ [effect] }

/-- Record a log line, if it is shown. -/
def log (line : Log.Line) : Action Unit := do
  if line.isShown (← get).verbose then emit (.log line)

/-- Record some log lines. -/
def logAll (lines : List Log.Line) : Action Unit := lines.forM log

/-- Record a line for debugging. -/
def debug (message : String) : Action Unit := log ⟨.debug, message⟩

/-- The result of something that may fail with a client error. -/
def ofClient (result : Except ClientError α) : Action α :=
  match result with
  | .ok a => pure a
  | .error e => throw (.client e)

/-- The result of something that may fail. -/
def ofExcept (result : Except Failure α) : Action α :=
  match result with
  | .ok a => pure a
  | .error f => throw f

/-- The outcome of an action, whether it fails or not. -/
def outcome (action : Action α) : Action (Except Failure α) :=
  fun s => let (result, s) := action.run s; (.ok result, s)

/-- The next random number. -/
def draw : Action Number := do
  match (← get).draws with
  | [] => pure (.finite (mkRat 1 2))
  | n :: rest => modify fun s => { s with draws := rest }; pure n

/-- The daemon's answer to a call, which is recorded. -/
def ask (call : Call) : Action Json := do
  emit (.call call)
  match (← get).answers with
  | [] => throw (← get).silence
  | answer :: rest =>
    modify fun s => { s with answers := rest }
    match answer with
    | .data value => pure value
    | .failure failure => throw failure

end Action

end ImageBuild
