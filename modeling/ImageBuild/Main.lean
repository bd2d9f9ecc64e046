import ImageBuild.CommandLine.Program
import Std.Time.Zoned

namespace ImageBuild.Main

/-!
# The command line — a run of the program in its surroundings

A run is given the environment, the files that it may look at and the time; what it has to tell is
written in the order in which it happened.  There is no connection to a daemon here, so a request
ends without an answer.
-/

/-- The variables that a run looks at. -/
def variableNames : List String :=
  ["HOME", "DOCKER_HOST", "DOCKER_CONFIG", "SENTRY_DSN", "SENTRY_ENVIRONMENT", "NODE_ENV"]

/-- The surroundings of the process. -/
def readEnvironment : IO Environment := do
  let values ← variableNames.filterMapM fun name => do
    return (← IO.getEnv name).map fun value => (name, value)
  return {
    values
    workingDirectory := (← IO.currentDir).toString
    temporary := (← IO.getEnv "TMPDIR").getD "/tmp" }

/-- The tree with what lies at a path on disk, and everything below it; what cannot be read is left
    out. -/
partial def load (tree : FileTree) (path : String) : IO FileTree := do
  try
    let found ← IO.FS.realPath path
    if ← found.isDir then
      (← found.readDir).foldlM (fun tree entry => load tree (path ++ "/" ++ entry.fileName))
        (tree.makeDirectories (FileTree.locationOf path))
    else return tree.write (FileTree.locationOf path) (← IO.FS.readBinFile path).toList false
  catch _ => return tree

/-- The paths that a run looks at: the client config files and, for a build, a local context and a
    Dockerfile outside it. -/
def pathsOf (e : Environment) (words : List String) : List String :=
  Registry.paths e {} ++
    match CommandLine.dispatch CommandLine.program words with
    | .run command given (context :: _) =>
      if command.name = CommandLine.buildCommand.name && !Context.isRemote context then
        let place := Daemon.placeIn e
        let root := Context.normalizeRoot place context
        let dockerfile := (CommandLine.BuildFlags.ofGiven given).file
        root :: (Context.resolve? place dockerfile root).relocationSource.toList
      else []
    | _ => []

/-- The time on the clock. -/
def readTime : IO Log.Time := do
  let now ← Std.Time.PlainDateTime.now
  return {
    year := now.year.toInt.toNat, month := now.month.toInt.toNat, day := now.day.toInt.toNat
    hour := now.hour.toInt.toNat, minute := now.minute.toInt.toNat
    second := now.second.toInt.toNat }

/-- What a request ends with. -/
def unreachable : Failure := .plain "The daemon cannot be reached"

/-- A text as it is written to a channel. -/
def shown (text : String) : String := String.ofList (Text.written text.toList)

/-- Write what an effect shows. -/
def write (time : Log.Time) : Effect → IO Unit
  | .log line =>
    match line.channel with
    | .output => IO.print (shown (line.text time))
    | .error => IO.eprint (shown (line.text time))
  | .print text => IO.print (shown text)
  | _ => return

/-- A run of the program on the words of a command line; gives the exit code. -/
def run (words : List String) : IO Nat := do
  let environment ← readEnvironment
  let empty := ({} : FileTree).makeDirectories (FileTree.locationOf environment.temporary)
  let files ← (pathsOf environment words).foldlM load empty
  let time ← readTime
  let session : Session := { environment, files, silence := unreachable }
  let (result, session) := (CommandLine.run words).run session
  session.trace.forM (write time)
  match result with
  | .ok written =>
    IO.print written.output
    IO.eprint written.complaint
    return written.exitCode
  | .error failure =>
    IO.eprintln failure.title
    return 1

end ImageBuild.Main

/-- The program. -/
def main (words : List String) : IO UInt32 := return (← ImageBuild.Main.run words).toUInt32
