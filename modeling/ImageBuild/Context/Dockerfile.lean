import ImageBuild.Path.Platform
import ImageBuild.Text.Utf8
import ImageBuild.Digest.Sha1

namespace ImageBuild.Context

/-!
# Dockerfile locations — where a Dockerfile lies with respect to the build context

Resolution is lexical: nothing is read from disk.  A Dockerfile inside the context is named relative
to its root, and a relative spec keeps its own text.  One outside is reported by its source, and
gets a name at the context root that is derived from that source alone.
-/

/-- Where the daemon reads a Dockerfile from. -/
structure Resolution where
  /-- The name relative to the context root; nothing when no Dockerfile was asked for. -/
  contextRelativePath : Option String
  /-- The file to copy to that name when it lies outside the context. -/
  relocationSource : Option String
deriving DecidableEq, Repr

/-- The rules and the working directory under which paths are resolved. -/
structure Place where
  platform : Platform
  /-- The directory that a relative context root is joined to. -/
  cwd : String
  /-- The working directory of the process, which decides where relative paths meet. -/
  processCwd : String

/-- What long Windows paths start with. -/
def longPathMark : List Char := ['\\', '\\', '?', '\\']

/-- Whether a Windows path is marked as long. -/
def isLongPath (platform : Platform) (p : List Char) : Bool :=
  platform == .windows && longPathMark.isPrefixOf p

/-- A path without the mark of long paths. -/
def dropLongPathMark (platform : Platform) (p : List Char) : List Char :=
  if isLongPath platform p then p.drop longPathMark.length else p

/-- A path in the separators of archives. -/
def toForwardSlashes (platform : Platform) (p : List Char) : List Char :=
  match platform with
  | .posix => p
  | .windows => p.map fun c => if c = '\\' then '/' else c

/-- Whether a relative path leaves the directory it starts from: its first name is `..`, or it is
    absolute because it lies on another drive. -/
def escapes (platform : Platform) (relative : List Char) : Bool :=
  platform.isAbsolute relative ||
    relative.takeWhile (· ≠ platform.separator) == Path.dotDot

/-- What the name of a relocated Dockerfile starts with. -/
def relocatedStem : List Char := ".dockerfile.".toList

/-- The name at the context root that a relocated Dockerfile is copied to. -/
def relocatedName (source : List Char) : List Char :=
  relocatedStem ++ Digest.Sha1.hex (Text.Utf8.encode (Text.written source))

/-- The context root as an absolute path without redundant parts or mark. -/
def rootOf (place : Place) (contextRoot : List Char) : List Char :=
  let root := dropLongPathMark place.platform contextRoot
  if place.platform.isAbsolute root then place.platform.normalize root
  else place.platform.join [place.cwd.toList, root]

/-- The context root as an absolute path without redundant parts or mark, as a string. -/
def normalizeRoot (place : Place) (contextRoot : String) : String :=
  String.ofList (rootOf place contextRoot.toList)

/-- The location of a Dockerfile given by a spec without mark, against a normalized root. -/
def locate (platform : Platform) (root spec : List Char) : List Char :=
  if platform.isAbsolute spec then platform.normalize spec else platform.join [root, spec]

/-- Where the daemon reads the Dockerfile named by `spec` from. -/
def resolve (place : Place) (spec : String) (contextRoot : String) : Resolution :=
  let platform := place.platform
  let root := rootOf place contextRoot.toList
  let spec := dropLongPathMark platform spec.toList
  let location := locate platform root spec
  let relative := platform.relative place.processCwd.toList root location
  if escapes platform relative then
    { contextRelativePath := some (String.ofList (relocatedName location))
      relocationSource :=
        some (String.ofList
          (if isLongPath platform contextRoot.toList then longPathMark ++ location else location)) }
  else
    let named := if platform.isAbsolute spec then relative else spec
    { contextRelativePath := some (String.ofList (toForwardSlashes platform named))
      relocationSource := none }

/-- Where the daemon reads the Dockerfile from, if one was asked for. -/
def resolve? (place : Place) (spec : Option String) (contextRoot : String) : Resolution :=
  match spec with
  | none => ⟨none, none⟩
  | some spec => resolve place spec contextRoot

end ImageBuild.Context
