import ImageBuild.Registry.Stored
import ImageBuild.Session

namespace ImageBuild.Registry

/-!
# Locations — where the client config file is, and what is read from it

There are two places: the config directory with the current layout, and the home directory with the
older one.  The first file that is there counts, even if it cannot be read.
-/

/-- The name of the client config file. -/
def fileName : String := "config.json"

/-- The name of the client config file in the older layout. -/
def legacyFileName : String := ".dockercfg"

/-- The directories to look in, where they are not those of the environment. -/
structure Directories where
  config : Option String := none
  home : Option String := none
deriving DecidableEq, Repr

/-- The paths of the client config file, in the order in which they are tried. -/
def paths (e : Environment) (d : Directories) : List String :=
  let path (directory name : String) : String :=
    String.ofList (Path.Posix.join [directory.toList, name.toList])
  [path (d.config.getD (Settings.configDirectory e)) fileName,
   path (d.home.getD e.home) legacyFileName]

/-- The layout of the client config file at a path. -/
def layoutAt (path : String) : FileLayout :=
  if Path.Posix.baseName path.toList = legacyFileName.toList then .legacy else .current

/-- Why the text of a file is no client config. -/
def notJson : String := "not JSON"

/-- The value in a file. -/
def readValue (files : FileTree) (path : String) : Except String Json :=
  match files.read path.toList with
  | .error refusal => .error refusal.code
  | .ok bytes =>
    match Json.parse? (Text.Utf8.decode bytes) with
    | some value => .ok value
    | none => .error notJson

/-- A line that tells what reading found. -/
def lineOf (notice : Notice) : Log.Line :=
  match notice with
  | .helpersIgnored => ⟨.warn, notice.message⟩
  | .nothingStored _ => ⟨.debug, notice.message⟩

/-- What a client config file gives, with what there is to tell. -/
def readConfig (layout : FileLayout) (file : Json) :
    Action (List (String × StoredCredentials)) := do
  let (notices, result) := readFile layout file
  Action.logAll (notices.map lineOf)
  Action.ofClient result

/-- The source of credentials in the client config file.  None when there is no such file or it
    cannot be read. -/
def load (d : Directories) : Action (Option Source) := do
  let s ← get
  match (paths s.environment d).find? fun path => s.files.has path.toList with
  | none => do
    Action.debug "No registry client config found"
    return none
  | some path =>
    match readValue s.files path with
    | .error reason => do
      Action.log ⟨.warn, "Failed to read registry client config " ++ path ++ ": " ++ reason⟩
      return none
    | .ok file => do
      let source := sourceOfStored (← readConfig (layoutAt path) file)
      Action.debug ("Loaded credentials for " ++ toString source.registries.length ++
        " registries from " ++ path)
      return some source

end ImageBuild.Registry
