import ImageBuild.Archive.Lifecycle
import ImageBuild.Archive.Script
import ImageBuild.Archive.Staging
import ImageBuild.Session

namespace ImageBuild.Archive

/-!
# Packing — a context directory as the archive stream of a build request

A Dockerfile from outside the context is staged first.  Then the archiver is started; what it brings
about follows the lifecycle of `Archive.State`.  A start may also be refused at once: for the name of
the command or its arguments, or because the system will not have it.
-/

/-- How an attempt to start a command ends. -/
inductive Start
  /-- There is not even a process that could fail. -/
  | refused (failure : Failure)
  /-- The command turned out not to run. -/
  | failed (reason : String)
  | running (outcome : Outcome)

/-- What keeps a command from being tried: it has no name, or its name or an argument holds a
    NUL. -/
def obstacle? (command : String) (arguments : List String) : Option Failure :=
  let nul (name value : String) : Option String :=
    if value.toList.contains '\x00' then
      some (badArgument name "must be a string without null bytes" value.toList)
    else none
  let empty := if command.isEmpty then some (badArgument "file" "cannot be empty" []) else none
  let named := arguments.mapIdx fun i argument => ("args[" ++ toString i ++ "]", argument)
  let inArguments := named.findSome? fun (name, argument) => nul name argument
  ((nul "file" command).or (empty.or inArguments)).map .misuse

/-- The most bytes that the system takes for an argument. -/
def longestArgument : Nat := 131071

/-- Whether an argument is too long for the system. -/
def isTooLong (argument : String) : Bool :=
  longestArgument < (Text.Utf8.encode (Text.written argument.toList)).length

/-- How starting a command ends. -/
def start (tree : FileTree) (command : String) (arguments : List String) : Start :=
  match obstacle? command arguments with
  | some failure => .refused failure
  | none =>
    -- the system takes the arguments once it has found the command, and before it looks into it
    let taking (started : Start) : Start :=
      if arguments.any isTooLong then .refused (.plain "spawn E2BIG") else started
    let refusal (r : Refusal) : String := "spawn " ++ command ++ " " ++ r.code
    if command = "tar" then taking (.running (Tar.run tree arguments))
    else if command.toList.contains '/' then
      match tree.locate command.toList with
      | .ok (_, .file content true) =>
        taking <|
          if Script.hasInterpreter content then
            .running (Script.run tree command content arguments)
          else .failed (refusal .noEntry)
      | .ok _ => .failed (refusal .notPermitted)
      | .error .noEntry => .failed (refusal .noEntry)
      | .error r => .refused (.plain ("spawn " ++ r.code))
    else if FileTree.maxNameLength < (Text.Utf8.encode (Text.written command.toList)).length then
      .refused (.plain ("spawn " ++ Refusal.nameTooLong.code))
    else
      let effect := Script.perform tree command 0 (command :: arguments) []
      if effect.code = 127 then .failed (refusal .noEntry)
      else
        taking <| .running
          { content := .bytes effect.output
            complaint := effect.complaint
            exitCode := some effect.code }

/-- How starting a command ends where the system may refuse it for a reason of its own.  The name and
    the arguments have been looked at before. -/
def startUnless (refusal : Option Failure) (tree : FileTree) (command : String)
    (arguments : List String) : Start :=
  match obstacle? command arguments, refusal with
  | none, some failure => .refused failure
  | _, _ => start tree command arguments

/-- A packed context that is still being streamed. -/
structure Packing where
  command : String
  /-- The directory of the staged Dockerfile. -/
  staging : Option Location
  /-- What the archiver will bring about when its stream is read to the end. -/
  events : List Event
  content : Content

/-- The events of an archiver whose stream is read to the end. -/
def Outcome.events (o : Outcome) : List Event :=
  [.exited o.exitCode (String.ofList (Text.Utf8.decode o.complaint)), .closed]

/-- The staging directory of a request, when one is needed, with its location. -/
def stageFor (request : PackRequest) : Action (Option Staged) := do
  match request.resolved.relocationSource, request.resolved.contextRelativePath with
  | some source, some placeholder =>
    if source.isEmpty || placeholder.isEmpty then return none
    else do
      let s ← get
      let (outcome, left) := tryStage s.files s.environment.temporary source placeholder
      set { s with files := left }
      let staged ← Action.ofExcept outcome
      Action.debug
        ("Dockerfile " ++ source ++ " is outside the context, adding it as " ++ placeholder)
      return some staged
  | _, _ => return none

/-- Start packing a context. -/
def startPacking (command : String) (request : PackRequest) : Action Packing := do
  let staged ← stageFor request
  let arguments := arguments request.contextRoot (staged.map (·.path))
    request.resolved.contextRelativePath
  Action.debug ("Packing build context " ++ request.contextRoot)
  let s ← get
  match startUnless (s.refusal? command arguments) s.files command arguments with
  | .refused failure => throw failure
  | .failed reason =>
    return ⟨command, staged.map (·.directory), [.failedToStart reason, .closed], .bytes []⟩
  | .running outcome =>
    return ⟨command, staged.map (·.directory), outcome.events, outcome.content⟩

/-- What is left of a packed context after some events. -/
def Packing.after (p : Packing) (events : List Event) : Action State := do
  let (final, told) := State.run p.command { staged := p.staging.isSome } events
  if let some directory := p.staging then
    if !final.staged then modify fun s => { s with files := s.files.remove directory }
  Action.logAll told
  return final

/-- What the stream of a packed context gives when it is read to its end. -/
def Packing.read (p : Packing) : Action (Except ClientError Content) := do
  let final ← p.after p.events
  match final.stream with
  | .destroyed (some error) => return .error error
  | _ => return .ok p.content

/-- Give up the stream of a packed context before the archiver has exited. -/
def Packing.abandon (p : Packing) : Action Unit := do
  let ended := p.events.filter fun event =>
    match event with
    | .failedToStart _ => true
    | _ => false
  let _ ← p.after (ended ++ [.abandoned, .closed, .exited none ""])

/-- Pack a context and read the archive to its end. -/
def pack (command : String) (request : PackRequest) : Action Body := do
  let packing ← startPacking command request
  return .archive (← packing.read)

end ImageBuild.Archive
