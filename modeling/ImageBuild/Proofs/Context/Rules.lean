import ImageBuild.Context.Dockerfile

namespace ImageBuild.Context

open ImageBuild.Path

/-!
# Rules — the steps of resolution by the rules of one platform

Resolution is one definition for both platforms.  Where the platform is known, its steps are those of
posix or of Windows paths: the normalized root (`rootOf_posix`, `rootOf_windows`), the location of a
Dockerfile (`locate_posix`, `locate_windows`), the path that leads to it (`pathTo_posix`,
`pathTo_windows`) and whether a path leaves (`escapes_posix`, `escapes_windows`).
-/

variable {place : Place}

/-- The path from the context root to a Dockerfile. -/
def pathTo (place : Place) (contextRoot spec : String) : List Char :=
  let root := rootOf place contextRoot.toList
  place.platform.relative place.processCwd.toList root
    (locate place.platform root (dropLongPathMark place.platform spec.toList))

/-! ### Posix paths -/

/-- There is no mark of long paths in posix paths. -/
@[simp] theorem isLongPath_posix (p : List Char) : isLongPath .posix p = false := rfl

/-- There is no mark of long paths to drop in posix paths. -/
@[simp] theorem dropLongPathMark_posix (p : List Char) : dropLongPathMark .posix p = p := rfl

/-- By posix rules, absolute paths are absolute posix paths. -/
@[simp] theorem isAbsolute_posix (p : List Char) :
    Platform.posix.isAbsolute p = Posix.isAbsolute p := rfl

/-- By posix rules, a context root is normalized, behind the working directory if it is relative. -/
theorem rootOf_posix (hposix : place.platform = .posix) (contextRoot : List Char) :
    rootOf place contextRoot =
      if Posix.isAbsolute contextRoot then Posix.normalize contextRoot
      else Posix.join [place.cwd.toList, contextRoot] := by
  rw [rootOf, hposix]
  rfl

/-- By posix rules, a Dockerfile is located by its normalized spec, behind the root if it is
    relative. -/
theorem locate_posix (root spec : List Char) :
    locate .posix root spec =
      if Posix.isAbsolute spec then Posix.normalize spec else Posix.join [root, spec] := rfl

/-- By posix rules, the path to a Dockerfile leads to the location of its spec as it is given. -/
theorem pathTo_posix (hposix : place.platform = .posix) (contextRoot spec : String) :
    pathTo place contextRoot spec =
      Posix.relative place.processCwd.toList (rootOf place contextRoot.toList)
        (locate .posix (rootOf place contextRoot.toList) spec.toList) := by
  rw [pathTo, hposix]
  rfl

/-- By posix rules, a path leaves when it is absolute or starts with `..`. -/
theorem escapes_posix (p : List Char) :
    escapes .posix p = (Posix.isAbsolute p || p.takeWhile (· ≠ '/') == dotDot) := rfl

/-! ### Windows paths -/

/-- A path without the mark of long Windows paths. -/
def unmarked (p : String) : List Char := dropLongPathMark .windows p.toList

/-- By Windows rules, a context root without its mark is normalized, behind the working directory if
    it is relative. -/
theorem rootOf_windows (hwindows : place.platform = .windows) (contextRoot : String) :
    rootOf place contextRoot.toList =
      if Windows.isAbsolute (unmarked contextRoot) then Windows.normalize (unmarked contextRoot)
      else Windows.join [place.cwd.toList, unmarked contextRoot] := by
  rw [rootOf, hwindows]
  rfl

/-- By Windows rules, a Dockerfile is located by its normalized spec, behind the root if it is
    relative. -/
theorem locate_windows (root spec : List Char) :
    locate .windows root spec =
      if Windows.isAbsolute spec then Windows.normalize spec else Windows.join [root, spec] := rfl

/-- By Windows rules, the path to a Dockerfile leads to the location of its spec without the mark. -/
theorem pathTo_windows (hwindows : place.platform = .windows) (contextRoot spec : String) :
    pathTo place contextRoot spec =
      Windows.relative place.processCwd.toList (rootOf place contextRoot.toList)
        (locate .windows (rootOf place contextRoot.toList) (unmarked spec)) := by
  rw [pathTo, hwindows]
  rfl

/-- By Windows rules, a path leaves when it is absolute or starts with `..`. -/
theorem escapes_windows (p : List Char) :
    escapes .windows p = (Windows.isAbsolute p || p.takeWhile (· ≠ '\\') == dotDot) := rfl

/-! ### Both -/

/-- Nothing does not leave the directory that it starts from. -/
theorem escapes_nil (platform : Platform) : escapes platform [] = false := by
  cases platform <;> rfl

/-- Forward slashes are only put where there is something. -/
theorem toForwardSlashes_eq_nil_iff (platform : Platform) (p : List Char) :
    toForwardSlashes platform p = [] ↔ p = [] := by
  cases platform <;> simp [toForwardSlashes]

end ImageBuild.Context
