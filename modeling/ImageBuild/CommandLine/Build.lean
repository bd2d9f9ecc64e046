import ImageBuild.CommandLine.Dispatch
import ImageBuild.Daemon.Client
import ImageBuild.Registry.Location
import ImageBuild.Request.KeyValue

namespace ImageBuild.CommandLine

/-!
# The build command — building an image from the command line
-/

/-- The options of the build command. -/
def buildOptions : List OptionSpec :=
  [{ short := some 'f', long := "file", value := some "dockerfile"
     description := "Dockerfile path, relative to the context or absolute" },
   { short := some 't', long := "tag", value := some "tag"
     description := "Name and optional tag for the image" },
   { long := "build-arg", value := some "KEY=VALUE"
     description := "Build-time variable (repeatable)" },
   { long := "label", value := some "KEY=VALUE", description := "Image label (repeatable)" },
   { long := "target", value := some "stage", description := "Build stage to stop at" },
   { long := "platform", value := some "platform", description := "Target platform" },
   { long := "pull", description := "Always pull newer base images" },
   { long := "no-cache", description := "Do not use the build cache" },
   { long := "no-rm", description := "Keep intermediate containers" },
   { long := "force-rm", description := "Always remove intermediate containers" },
   { short := some 'q', long := "quiet", description := "Suppress build output" },
   { long := "host", value := some "host"
     description := "Daemon host (defaults to DOCKER_HOST)" },
   { long := "verbose", description := "Enable debug logging" }]

/-- The build command. -/
def buildCommand : CommandSpec :=
  { name := "build"
    description := "Build an image from a context directory or remote URL"
    arguments := [⟨"path", true, "Context directory, or a remote context URL"⟩]
    options := buildOptions }

/-- What the options of the build command say. -/
structure BuildFlags where
  file : Option String := none
  tag : Option String := none
  buildArgs : Option (List String) := none
  labels : Option (List String) := none
  target : Option String := none
  platform : Option String := none
  pull : Bool := false
  cache : Bool := true
  rm : Bool := true
  forceRm : Bool := false
  quiet : Bool := false
  host : Option String := none
  verbose : Bool := false
deriving DecidableEq, Repr

/-- The flags after one more option.  Repeatable options collect their values; of any other the last
    value counts. -/
def BuildFlags.give (f : BuildFlags) (g : Given) : BuildFlags :=
  match g.option.long, g.value with
  | "file", some v => { f with file := some v }
  | "tag", some v => { f with tag := some v }
  | "build-arg", some v => { f with buildArgs := some (Request.collect v f.buildArgs) }
  | "label", some v => { f with labels := some (Request.collect v f.labels) }
  | "target", some v => { f with target := some v }
  | "platform", some v => { f with platform := some v }
  | "host", some v => { f with host := some v }
  | "pull", none => { f with pull := true }
  | "no-cache", none => { f with cache := false }
  | "no-rm", none => { f with rm := false }
  | "force-rm", none => { f with forceRm := true }
  | "quiet", none => { f with quiet := true }
  | "verbose", none => { f with verbose := true }
  | _, _ => f

/-- What given options say. -/
def BuildFlags.ofGiven (given : List Given) : BuildFlags := given.foldl .give {}

/-- Flags as the members of an object. -/
def BuildFlags.toJson (f : BuildFlags) : Json :=
  let text (name : String) (value : Option String) : Members Json :=
    value.toList.map fun v => (name, .string v)
  let texts (name : String) (values : Option (List String)) : Members Json :=
    values.toList.map fun vs => (name, .array (vs.map .string))
  .object <|
    text "file" f.file ++ text "tag" f.tag ++ texts "buildArg" f.buildArgs ++
    texts "label" f.labels ++ text "target" f.target ++ text "platform" f.platform ++
    [("pull", .bool f.pull), ("cache", .bool f.cache), ("rm", .bool f.rm),
     ("forceRm", .bool f.forceRm), ("quiet", .bool f.quiet)]

/-- Why flags give no build options. -/
inductive FlagDefect
  /-- A text that is no pair, and the option that it was given to. -/
  | badPair (option pair : String)
  /-- A flag is of a kind that cannot be used. -/
  | wrongKind
deriving DecidableEq, Repr

/-- The complaint about a text that is no pair. -/
def badPairLine (option pair : String) : Log.Line :=
  ⟨.error, "Invalid --" ++ option ++ " value: " ++ pair ++ ". Expected KEY=VALUE"⟩

/-- The members that the pairs of an option give. -/
def pairsOf (option : String) (given : Option Json) :
    Except FlagDefect (Option (Members String)) :=
  match Request.pairs? given with
  | .ok members => .ok members
  | .error (.notPair pair) => .error (.badPair option pair)
  | .error .wrongKind => .error .wrongKind

/-- A map of strings as a value. -/
def mapJson (members : Members String) : Json :=
  .object (members.map fun (name, value) => (name, .string value))

/-- Whether a flag is given as the truth value `b`. -/
def isFlag (b : Bool) : Option Json → Bool
  | some (.bool given) => given == b
  | _ => false

/-- The members of build options: the path, the flags, and the maps that the pairs among the flags
    give.  Flags that are texts are handed on as they are. -/
def optionMembers (path : String) (flags : Json) (buildArgs labels : Option (Members String)) :
    Members Json :=
  let same (name flag : String) : Members Json :=
    (flags.get? flag).toList.map fun value => (name, value)
  let map (name : String) (value : Option (Members String)) : Members Json :=
    value.toList.map fun ms => (name, mapJson ms)
  [("path", .string path)] ++ same "dockerfile" "file" ++ same "tag" "tag" ++
    map "buildArgs" buildArgs ++ map "labels" labels ++ same "target" "target" ++
    same "platform" "platform" ++
    [("pull", .bool (isFlag true (flags.get? "pull"))),
     ("noCache", .bool (isFlag false (flags.get? "cache"))),
     ("rm", .bool !(isFlag false (flags.get? "rm"))),
     ("forceRm", .bool (isFlag true (flags.get? "forceRm"))),
     ("quiet", .bool (isFlag true (flags.get? "quiet")))]

/-- The build options that a path and flags stand for. -/
def optionsOf (path : String) (flags : Json) : Except FlagDefect (Members Json) := do
  if flags.kind = .null then .error .wrongKind
  let buildArgs ← pairsOf "build-arg" (flags.get? "buildArg")
  let labels ← pairsOf "label" (flags.get? "label")
  return optionMembers path flags buildArgs labels

/-- How a command ends. -/
inductive Ending
  | done
  /-- The process ends at once with an exit code. -/
  | exit (code : Nat)
deriving DecidableEq, Repr

/-- The line that tells that a build is done. -/
def builtLine (tag : Option String) : Log.Line :=
  match tag.filter (!·.isEmpty) with
  | some tag => ⟨.success, "Built " ++ tag⟩
  | none => ⟨.success, "Build finished"⟩

/-- Build an image, with the daemon's progress as output. -/
def runBuild (path : String) (f : BuildFlags) : Action Ending := do
  modify fun s => { s with verbose := f.verbose }
  match optionsOf path f.toJson with
  | .error (.badPair option pair) => do
    Action.log (badPairLine option pair)
    return .exit 1
  | .error .wrongKind => throw .wrongKind
  | .ok options => do
    let credentials ← Registry.load {}
    let client ← Daemon.Client.create { host := f.host, credentials }
    let progress ← Daemon.build client { options := .object options }
    Action.emit (.print progress)
    Action.log (builtLine f.tag)
    return .done

end ImageBuild.CommandLine
