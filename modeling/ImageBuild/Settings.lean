import ImageBuild.Json.Parser
import ImageBuild.Path.Posix
import ImageBuild.Path.Platform

namespace ImageBuild

/-!
# Settings — what the surroundings of the process decide

The environment names the daemon, the directory of the client config file and where errors are
reported; what it does not name has a default.
-/

/-- The surroundings of the process. -/
structure Environment where
  /-- The variables that are set, with their values. -/
  values : List (String × String) := []
  workingDirectory : String := "/"
  platform : Platform := .posix
  /-- The directory for temporary files. -/
  temporary : String := "/tmp"

namespace Environment

/-- The value of a variable. -/
def get? (e : Environment) (name : String) : Option String := e.values.lookup name

/-- The value of a variable, unless it is empty. -/
def filled? (e : Environment) (name : String) : Option String :=
  (e.get? name).filter (!·.isEmpty)

/-- The home directory. -/
def home (e : Environment) : String := (e.get? "HOME").getD ""

end Environment

namespace Settings

/-- The daemon host when none is named. -/
def defaultHost : String := "unix:///var/run/docker.sock"

/-- The version of the daemon's interface that requests are written for. -/
def apiVersion : String := "1.41"

/-- How often a request is tried that may be repeated. -/
def maxAttempts : Number := 3

/-- The delay before such a request is repeated, in milliseconds. -/
def baseDelay : Number := 500

/-- The time that a request may take, in milliseconds. -/
def timeout : Number := 10000

/-- Where the daemon answers that it is there. -/
def pingPath : String := "/_ping"

/-- Where the daemon takes builds. -/
def buildPath : String := "/build"

/-- The form of base64 texts, as a regular expression. -/
def base64Form : String := "^[A-Za-z0-9+/_-]*=\x7b0,2\x7d$"

/-- The version of this client. -/
def currentVersion : Json := .string "0.3.0"

/-- The version of a client that cannot tell. -/
def unknownVersion : Json := .string "0.0.0"

/-- The version that the text of a manifest names; there may be no such text. -/
def versionOf (manifest : Option String) : Json :=
  match ((manifest.bind Json.ofText?).bind (·.get? "version")) with
  | none | some .null => unknownVersion
  | some version => version

/-- The daemon host that the environment names. -/
def dockerHost (e : Environment) : String := (e.filled? "DOCKER_HOST").getD defaultHost

/-- A replacement as it is written for the first character of a text: a dollar sign stands for
    itself when it is doubled, and with one of three marks for the character, for what precedes it,
    which is nothing, or for the rest of the text. -/
def fillReplacement (rest : List Char) : List Char → List Char
  | '$' :: c :: s =>
    if c = '$' then '$' :: fillReplacement rest s
    else if c = '&' then '~' :: fillReplacement rest s
    else if c = Char.ofNat 0x60 then fillReplacement rest s
    else if c = Char.ofNat 0x27 then rest ++ fillReplacement rest s
    else '$' :: fillReplacement rest (c :: s)
  | c :: s => c :: fillReplacement rest s
  | [] => []

/-- A directory with a tilde at its front put into the home directory. -/
def expandTilde (home directory : List Char) : List Char :=
  match directory with
  | ['~'] => fillReplacement [] home
  | '~' :: '/' :: rest => fillReplacement ('/' :: rest) home ++ '/' :: rest
  | _ => directory

/-- The directory of the client config file. -/
def configDirectory (e : Environment) : String :=
  match e.filled? "DOCKER_CONFIG" with
  | some directory => String.ofList (expandTilde e.home.toList directory.toList)
  | none => String.ofList (Path.Posix.join [e.home.toList, ".docker".toList])

end Settings

end ImageBuild
