import ImageBuild.Archive.Packager
import ImageBuild.Context.Remote
import ImageBuild.Retry

namespace ImageBuild.Daemon

/-!
# Clients — asking a daemon for builds

Whatever can fail on the caller's input is checked before the context is packed, and a build is sent
only once everything is prepared.  Builds are never repeated; asking whether the daemon is there is.
-/

/-- What packs contexts. -/
structure Packager where
  pack : PackRequest → Action Body

/-- The packager that runs an archiver. -/
def Packager.ofCommand (command : String) : Packager := ⟨Archive.pack command⟩

/-- The archiver of the system. -/
def Packager.standard : Packager := .ofCommand "tar"

/-- A client of a daemon. -/
structure Client where
  credentials : Option Registry.Source
  packager : Packager

/-- What a client is made from. -/
structure ClientOptions where
  host : Option String := none
  apiVersion : Option String := none
  timeout : Option Number := none
  credentials : Option Registry.Source := none
  packager : Packager := .standard

/-- The warning that credentials travel in plain text. -/
def plainTextWarning : Log.Line :=
  ⟨.warn,
    "Daemon URL uses HTTP (not HTTPS). Registry credentials may be transmitted in plain text."⟩

/-- A client made from its options. -/
def Client.create (o : ClientOptions) : Action Client := do
  let s ← get
  let endpoint ← Action.ofExcept
    (Endpoint.ofHost? (o.host.getD (Settings.dockerHost s.environment)))
  let exposed ← Action.ofExcept endpoint.isExposed
  if exposed && o.credentials.any (·.isPresent) then Action.log plainTextWarning
  Action.emit <| .connect
    { baseUrl := endpoint.baseUrl ++ "/v" ++ o.apiVersion.getD Settings.apiVersion
      socketPath := endpoint.socketPath
      userAgent := "container-build-client/" ++ s.version.plainText
      timeout := o.timeout.getD Settings.timeout }
  return { credentials := o.credentials, packager := o.packager }

/-! ### Asking whether the daemon is there -/

/-- How often the daemon is asked whether it is there. -/
def pingPolicy : Retry.Policy :=
  { attempts := Settings.maxAttempts, baseDelay := Settings.baseDelay }

/-- A session as the surroundings of repeated requests. -/
def surroundings : Retry.Surroundings Action :=
  { draw := Action.draw
    tell := Action.log
    sleep := fun delay => Action.emit (.sleep delay) }

/-- Whether an answer says that the daemon is there. -/
def saysOk : Json → Bool
  | .string s => s = "OK"
  | _ => false

/-- Whether the daemon is there. -/
def ping : Action Bool := do
  Action.debug "Pinging daemon"
  let answer ← Retry.run pingPolicy surroundings
    (Action.outcome (Action.ask (.get Settings.pingPath)))
  return saysOk (← Action.ofExcept answer)

/-! ### Builds -/

/-- What a caller asks to be built: the options, and a ready-made context if there is one, which
    goes before the path in the options. -/
structure BuildRequest where
  options : Json
  context : Option Body := none

/-- A build that is ready to be sent. -/
structure PreparedBuild where
  params : Request.Params
  headers : Registry.Headers
  body : Option Body

/-- The header for the type of the body, and its value. -/
def contentType : String × String := ("Content-Type", "application/tar")

/-- The header for the compression of the body. -/
def contentEncoding : String := "Content-Encoding"

/-- Where a context is. -/
inductive ContextPlace
  /-- The caller gives the context ready-made. -/
  | given (body : Body)
  /-- The daemon fetches the context. -/
  | remote (url : String)
  | directory (path : String)

/-- Where the context of a build is. -/
def BuildRequest.place (r : BuildRequest) : Except Failure ContextPlace :=
  if r.options.kind = .null then .error .wrongKind
  else
    match r.context, (r.options.get? "path").filter Json.isPresent with
    | some body, _ => .ok (.given body)
    | none, none => .error (.client .noContext)
    | none, some (.string path) =>
      .ok (if Context.isRemote path then .remote path else .directory path)
    | none, some _ => .error .wrongKind

/-- The credentials that are sent with a build: its own, or else those of the client. -/
def credentialsFor (client : Client) (options : Json) : Option Registry.Source :=
  match options.get? "authConfigs" with
  | none | some .null => client.credentials
  | some value => some (.ofJson value)

/-- The headers for a body. -/
def bodyHeaders (headers : Registry.Headers) : Registry.Headers :=
  headers.insert contentType.1 (.string contentType.2)

/-- The headers for a body that the caller gives, which may be compressed. -/
def givenBodyHeaders (options : Json) (headers : Registry.Headers) : Registry.Headers :=
  match (options.get? "encoding").filter Json.isPresent with
  | none | some (.string "identity") => bodyHeaders headers
  | some encoding => (bodyHeaders headers).insert contentEncoding encoding

/-- The place of a path in the environment. -/
def placeIn (e : Environment) : Context.Place :=
  { platform := e.platform, cwd := e.workingDirectory, processCwd := e.workingDirectory }

/-- The checks of a build: its parameters and headers before there is a body. -/
def checkBuild (client : Client) (options : Json) (dockerfile remote : Option String) :
    Except Failure (Request.Params × Registry.Headers) := do
  let params ← Request.paramsOf options dockerfile remote
  match Registry.attach [] (credentialsFor client options) with
  | .ok headers => return (params, headers)
  | .error error => .error (.client error)

/-- The Dockerfile of a context directory: a text, or nothing where none is given. -/
def directoryDockerfile (options : Json) : Except Failure (Option String) :=
  match options.get? "dockerfile" with
  | none | some .null => .ok none
  | some (.string dockerfile) => .ok (some dockerfile)
  | some _ => .error .wrongKind

/-- Prepare a build for sending. -/
def prepare (client : Client) (r : BuildRequest) : Action PreparedBuild := do
  let dockerfile := Request.Options.dockerfile? r.options
  match ← Action.ofExcept r.place with
  | .remote url => do
    let (params, headers) ← Action.ofExcept (checkBuild client r.options dockerfile (some url))
    Action.debug ("Building from remote context " ++ url)
    return { params, headers, body := none }
  | .given body => do
    let (params, headers) ← Action.ofExcept (checkBuild client r.options dockerfile none)
    return { params, headers := givenBodyHeaders r.options headers, body := some body }
  | .directory path => do
    let place := placeIn (← get).environment
    let contextRoot := Context.normalizeRoot place path
    let resolved := Context.resolve? place
      (← Action.ofExcept (directoryDockerfile r.options)) contextRoot
    let (params, headers) ← Action.ofExcept
      (checkBuild client r.options resolved.contextRelativePath none)
    let request : PackRequest := { contextRoot, resolved }
    Action.emit (.pack request)
    let body ← client.packager.pack request
    return { params, headers := bodyHeaders headers, body := some body }

/-- Send a prepared build, and give the daemon's progress output.  When the stream of the body
    breaks off, the request fails with it and has no answer. -/
def send (b : PreparedBuild) : Action String := do
  let call : Call := .post Settings.buildPath b.params b.headers b.body
  match b.body with
  | some (.archive (.error error)) => do
    Action.emit (.call call)
    throw (.client error)
  | _ => return (← Action.ask call).plainText

/-- The line that announces a build. -/
def submission (p : Request.Params) : String :=
  "Submitting build (tag: " ++ p.tag.getD "none" ++ ", dockerfile: " ++
    p.dockerfile.getD "default" ++ ")"

/-- Prepare a build and send it. -/
def build (client : Client) (r : BuildRequest) : Action String := do
  let prepared ← prepare client r
  Action.debug (submission prepared.params)
  send prepared

end ImageBuild.Daemon
