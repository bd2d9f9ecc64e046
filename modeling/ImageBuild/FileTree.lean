import ImageBuild.Path.Segments
import ImageBuild.Text.Utf8

namespace ImageBuild

/-!
# File trees — the files that a build reads, and the temporary ones that it writes

A tree says what lies at each location, a location being the names that lead to it from the root.
`locate` follows a path as file systems do: every name but the last must be a directory, `..` leads
to the parent, and a trailing slash asks for a directory.
-/

/-- What lies at a location. -/
inductive Node
  | directory
  | file (content : List UInt8) (executable : Bool)
deriving DecidableEq, Repr

/-- The names that lead from the root to a place. -/
abbrev Location := List String

/-- What lies where.  The root is always a directory. -/
structure FileTree where
  nodes : List (Location × Node) := []
deriving DecidableEq, Repr, Inhabited

/-- Why a path leads nowhere. -/
inductive Refusal
  | noEntry
  | notDirectory
  | isDirectory
  | notPermitted
  | nameTooLong
deriving DecidableEq, Repr

/-- The code of a refusal. -/
def Refusal.code : Refusal → String
  | .noEntry => "ENOENT"
  | .notDirectory => "ENOTDIR"
  | .isDirectory => "EISDIR"
  | .notPermitted => "EACCES"
  | .nameTooLong => "ENAMETOOLONG"

/-- The wording of a refusal. -/
def Refusal.text : Refusal → String
  | .noEntry => "No such file or directory"
  | .notDirectory => "Not a directory"
  | .isDirectory => "Is a directory"
  | .notPermitted => "Permission denied"
  | .nameTooLong => "File name too long"

namespace FileTree

/-- The number of bytes that a name may have. -/
def maxNameLength : Nat := 255

/-- The location that a path from the root leads to when none of its names is `.` or `..`. -/
def locationOf (path : String) : Location :=
  ((Text.split (· == '/') path.toList).filter (· ≠ [])).map String.ofList

/-- What lies at a location. -/
def node? (t : FileTree) (location : Location) : Option Node :=
  if location = [] then some .directory else t.nodes.lookup location

/-- The tree with something at a location. -/
def insert (t : FileTree) (location : Location) (node : Node) : FileTree :=
  ⟨t.nodes.filter (·.1 ≠ location) ++ [(location, node)]⟩

/-- The tree without a location and all that lies below it. -/
def remove (t : FileTree) (location : Location) : FileTree :=
  ⟨t.nodes.filter fun entry => !location.isPrefixOf entry.1⟩

/-- What lies below a location, at any depth, by the names that lead on from there. -/
def below (t : FileTree) (location : Location) : List (Location × Node) :=
  t.nodes.filterMap fun (place, node) =>
    if location.isPrefixOf place && location ≠ place then some (place.drop location.length, node)
    else none

/-- The names in a directory. -/
def names (t : FileTree) (location : Location) : List String :=
  (t.below location).filterMap fun (place, _) =>
    match place with
    | [name] => some name
    | _ => none

/-- The tree with a directory at a location, and directories on the way to it. -/
def makeDirectories (t : FileTree) (location : Location) : FileTree :=
  (List.range location.length).foldl (fun t n =>
    let place := location.take (n + 1)
    if (t.node? place).isSome then t else t.insert place .directory) t

/-- The tree with a file at a location, and directories on the way to it. -/
def write (t : FileTree) (location : Location) (content : List UInt8) (executable : Bool) :
    FileTree :=
  (t.makeDirectories location.dropLast).insert location (.file content executable)

/-! ### Paths -/

/-- The directory at a location, as far as it is one. -/
def directory? (t : FileTree) (location : Location) : Except Refusal Unit :=
  match t.node? location with
  | some .directory => .ok ()
  | some (.file ..) => .error .notDirectory
  | none => .error .noEntry

/-- Where the pieces of a path lead from a location. -/
def walk (t : FileTree) : Location → List (List Char) → Except Refusal Location
  | location, [] => .ok location
  | location, piece :: pieces => do
    t.directory? location
    if piece = [] ∨ piece = Path.dot then walk t location pieces
    else if piece = Path.dotDot then walk t location.dropLast pieces
    else if maxNameLength < (Text.Utf8.encode piece).length then .error .nameTooLong
    else walk t (location ++ [String.ofList piece]) pieces

/-- The pieces of a path.  Paths that do not start at the root lead nowhere. -/
def pieces? (path : List Char) : Except Refusal (List (List Char)) :=
  match path with
  | '/' :: rest => .ok (Text.split (· == '/') rest)
  | _ => .error .noEntry

/-- The place that a path leads to, and what lies there. -/
def locate (t : FileTree) (path : List Char) : Except Refusal (Location × Node) := do
  let location ← t.walk [] (← pieces? path)
  match t.node? location with
  | some node => .ok (location, node)
  | none => .error .noEntry

/-- The place that a path leads to, when it is a directory. -/
def locateDirectory (t : FileTree) (path : List Char) : Except Refusal Location := do
  match ← t.locate path with
  | (location, .directory) => .ok location
  | (_, .file ..) => .error .notDirectory

/-- Whether a path leads to anything. -/
def has (t : FileTree) (path : List Char) : Bool :=
  match t.locate path with
  | .ok _ => true
  | .error _ => false

/-- The bytes of the file that a path leads to. -/
def read (t : FileTree) (path : List Char) : Except Refusal (List UInt8) := do
  match ← t.locate path with
  | (_, .file content _) => .ok content
  | (_, .directory) => .error .isDirectory

/-- The place where a path has a file written: the directory before its last name must be there,
    and no directory may be there itself. -/
def locateForWriting (t : FileTree) (path : List Char) : Except Refusal Location := do
  let pieces ← pieces? path
  match pieces.getLast? with
  | none | some [] => .error .isDirectory
  | some _ =>
    let location ← t.walk [] pieces
    match t.node? location with
    | some .directory => .error .isDirectory
    | _ => .ok location

/-- The tree with the file at one path copied to another. -/
def copy (t : FileTree) (source target : List Char) : Except Refusal FileTree := do
  let (_, node) ← t.locate source
  let location ← t.locateForWriting target
  match node with
  | .file content executable => .ok (t.insert location (.file content executable))
  | .directory => .error .isDirectory

end FileTree

end ImageBuild
