import ImageBuild.Path.Posix
import ImageBuild.Path.Windows

namespace ImageBuild

/-!
# Platforms — the two families of path rules
-/

/-- A family of path rules. -/
inductive Platform
  | posix
  | windows
deriving DecidableEq, Repr

namespace Platform

/-- Whether a path is absolute. -/
def isAbsolute : Platform → List Char → Bool
  | .posix => Path.Posix.isAbsolute
  | .windows => Path.Windows.isAbsolute

/-- The shortest text of the same location. -/
def normalize : Platform → List Char → List Char
  | .posix => Path.Posix.normalize
  | .windows => Path.Windows.normalize

/-- Parts joined and normalized. -/
def join : Platform → List (List Char) → List Char
  | .posix => Path.Posix.join
  | .windows => Path.Windows.join

/-- The path that leads from one location to another. -/
def relative : Platform → List Char → List Char → List Char → List Char
  | .posix => Path.Posix.relative
  | .windows => Path.Windows.relative

/-- The separator that a platform writes. -/
def separator : Platform → Char
  | .posix => '/'
  | .windows => '\\'

end Platform

end ImageBuild
