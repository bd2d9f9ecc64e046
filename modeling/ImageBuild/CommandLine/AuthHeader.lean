import ImageBuild.CommandLine.Dispatch
import ImageBuild.Registry.Location
import ImageBuild.Text.Truncate

namespace ImageBuild.CommandLine

/-!
# The auth-header command — the registry header that builds would send
-/

/-- The auth-header command. -/
def authHeaderCommand : CommandSpec :=
  { name := "auth-header"
    description := "Show the registry config header built from the client config"
    options := [{ long := "raw", description := "Print the full encoded value" }] }

/-- How much of a header value is shown. -/
def previewLength : Number := 12

/-- What stands for the rest of a header value. -/
def previewMark : String := "****"

/-- The registries and the header value, of which only the front is shown unless `raw`. -/
def describeHeader (source : Registry.Source) (raw : Bool) : Except ClientError String := do
  let value ← Registry.encode source
  let shown := if raw then value else Text.truncate value previewLength previewMark
  let registries := source.registries
  return "\n".intercalate <|
    ["", "  Registries (" ++ toString registries.length ++ "):"] ++
      registries.map ("    - " ++ ·) ++ ["", "  X-Registry-Config: " ++ shown, ""]

/-- Show the registry header. -/
def runAuthHeader (raw : Bool) : Action Unit := do
  match (← Registry.load {}).filter (!·.registries.isEmpty) with
  | some source => do
    let text ← Action.ofClient (describeHeader source raw)
    Action.emit (.print (text ++ "\n"))
  | none => Action.log ⟨.warn, "No registry credentials found"⟩

end ImageBuild.CommandLine
