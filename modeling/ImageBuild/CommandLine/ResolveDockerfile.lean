import ImageBuild.CommandLine.Dispatch
import ImageBuild.Daemon.Client

namespace ImageBuild.CommandLine

/-!
# The resolve-dockerfile command — where the daemon will read the Dockerfile from
-/

/-- The resolve-dockerfile command. -/
def resolveCommand : CommandSpec :=
  { name := "resolve-dockerfile"
    description := "Show where the daemon will read the Dockerfile from"
    arguments :=
      [⟨"context", true, "Build context directory"⟩,
       ⟨"dockerfile", false, "Dockerfile path, relative to the context or absolute"⟩] }

/-- A text, or nothing. -/
def textOrNull (s : Option String) : Json := s.elim .null .string

/-- A resolution as the members of an object. -/
def resolutionMembers (r : Context.Resolution) : Members Json :=
  [("contextRelativePath", textOrNull r.contextRelativePath),
   ("relocationSourcePath", textOrNull r.relocationSource)]

/-- The context root and the members of a resolution as indented text.  A member of the same name
    takes the place of the context root. -/
def describeResolution (contextRoot : String) (resolution : Json) : String :=
  Json.indentedText <| .object <|
    resolution.spread.foldl (fun members (name, value) => Members.insert members name value)
      [("contextRoot", .string contextRoot)]

/-- Show where the daemon will read the Dockerfile from. -/
def runResolve (context : String) (dockerfile : Option String) : Action Unit := do
  let place := Daemon.placeIn (← get).environment
  let contextRoot := Context.normalizeRoot place context
  let resolution := Context.resolve? place dockerfile contextRoot
  let text := describeResolution contextRoot (.object (resolutionMembers resolution))
  Action.emit (.print (text ++ "\n"))

end ImageBuild.CommandLine
