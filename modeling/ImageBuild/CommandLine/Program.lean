import ImageBuild.CommandLine.AuthHeader
import ImageBuild.CommandLine.Build
import ImageBuild.CommandLine.ResolveDockerfile

namespace ImageBuild.CommandLine

/-!
# The program — from the words of a command line to an exit code

A failure of a command is told on the error channel and reported before the process ends.
-/

/-- The program. -/
def program : ProgramSpec :=
  { name := "container-build"
    description := "Submit image builds to a container daemon"
    commands := [buildCommand, resolveCommand, authHeaderCommand] }

/-- Record events for the reporter. -/
def report (events : List Report.Event) : Action Unit :=
  events.forM fun event => Action.emit (.report event)

/-- Set up the reporter, if the environment names a place to report to. -/
def setUpReporting : Action Unit := do
  let s ← get
  let setup := Report.setup? s.environment s.version
  report (Report.setUp setup)
  modify fun s => { s with reporting := setup.isSome || s.reporting }

/-- Run a command. -/
def runCommand (c : CommandSpec) (given : List Given) (operands : List String) : Action Ending := do
  let first := operands.headD ""
  if c.name = buildCommand.name then runBuild first (.ofGiven given)
  else if c.name = resolveCommand.name then do
    runResolve first operands[1]?
    return .done
  else do
    runAuthHeader !given.isEmpty
    return .done

/-- What the process writes without a log line: to the output, or to the error channel. -/
structure Written where
  output : String := ""
  complaint : String := ""
  exitCode : Nat
deriving DecidableEq, Repr

/-- Tell and report a failure. -/
def fail (failure : Failure) : Action Unit := do
  Action.log ⟨.error, failure.message⟩
  let reporting := (← get).reporting
  report (Report.capture reporting failure none ++ Report.flush reporting)

/-- Run the program on the words of a command line. -/
def run (words : List String) : Action Written := do
  setUpReporting
  match dispatch program words with
  | .showVersion => return { output := (← get).version.plainText ++ "\n", exitCode := 0 }
  | .showHelp text => return { output := text, exitCode := 0 }
  | .explain text => return { complaint := text, exitCode := 1 }
  | .complain message => return { complaint := message ++ "\n", exitCode := 1 }
  | .run command given operands => do
    match ← Action.outcome (runCommand command given operands) with
    | .ok .done => return { exitCode := 0 }
    | .ok (.exit code) => return { exitCode := code }
    | .error failure => do
      fail failure
      return { exitCode := 1 }

end ImageBuild.CommandLine
