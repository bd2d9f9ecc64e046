import ImageBuild.FileTree
import ImageBuild.Error
import ImageBuild.Path.Posix
import ImageBuild.Text.Hex

namespace ImageBuild.Archive

/-!
# Staging — a Dockerfile from outside the context, made ready for the archive

The file is copied under its new name into a fresh directory; the context itself is never written.
When the copy fails the directory is removed again.
-/

/-- What the names of staging directories start with. -/
def stagingStem : String := "container-build-"

/-- The first of the names of staging directories that is not among `taken`.  `tries` more than the
    number of taken names is enough. -/
def freshName (taken : List String) : (tries length : Nat) → String
  | 0, length => stagingStem ++ String.ofList (List.replicate length 'X')
  | tries + 1, length =>
    let name := stagingStem ++ String.ofList (List.replicate length 'X')
    if taken.contains name then freshName taken tries (length + 1) else name

/-- A character of a quoted text that cannot show itself. -/
def showChar (c : Char) : List Char :=
  let n := c.toNat
  if c = '\n' then ['\\', 'n']
  else if c = '\t' then ['\\', 't']
  else if c = '\r' then ['\\', 'r']
  else if n = 8 then ['\\', 'b']
  else if n = 12 then ['\\', 'f']
  else if c = '\\' then ['\\', '\\']
  else if n < 0x20 ∨ (0x7F ≤ n ∧ n < 0xA0) then
    '\\' :: 'x' :: (Text.hexDigits 2 n).map Char.toUpper
  else [c]

/-- Whether one character follows another somewhere in a text. -/
def holdsPair (a b : Char) (s : List Char) : Bool := (s.zip (s.drop 1)).contains (a, b)

/-- The mark that a text is quoted with: the first of three that it does not hold. -/
def quoteMark (s : List Char) : Char :=
  let single := Char.ofNat 0x27
  let back := Char.ofNat 0x60
  if !s.contains single then single
  else if !s.contains '"' then '"'
  else if !s.contains back && !holdsPair '$' (Char.ofNat 0x7B) s then back
  else single

/-- A text quoted for a message. -/
def showText (s : List Char) : String :=
  let mark := quoteMark s
  let single := Char.ofNat 0x27
  let shown := s.flatMap fun c => if c = single ∧ mark = single then ['\\', c] else showChar c
  let quoted := mark :: shown ++ [mark]
  String.ofList (if 128 < quoted.length then quoted.take 128 ++ ['.', '.', '.'] else quoted)

/-- The complaint about an argument of the system. -/
def badArgument (name reason : String) (value : List Char) : String :=
  "The argument '" ++ name ++ "' " ++ reason ++ ". Received " ++ showText value

/-- What is wrong with a path that holds a NUL. -/
def nulPath (name : String) (path : List Char) : String :=
  badArgument name "must be a string, Uint8Array, or URL without null bytes" path

/-- Why a file cannot be copied. -/
def copyRefusal (tree : FileTree) (source target : List Char) : Except String FileTree :=
  if source.contains '\x00' then .error (nulPath "src" source)
  else if target.contains '\x00' then .error (nulPath "dest" target)
  else
    match tree.copy source target with
    | .ok tree => .ok tree
    | .error refusal => .error refusal.code

/-- A staging directory in a file tree. -/
structure Staged where
  tree : FileTree
  directory : Location
  /-- The path of the directory. -/
  path : String
deriving Repr

/-- What is wrong when the temporary directory does not take a new one. -/
def noTemporary (temporary : String) (refusal : Refusal) : Failure :=
  .plain (refusal.code ++ ": " ++ refusal.text.toLower ++ ", mkdtemp '" ++ temporary ++ "/" ++
    stagingStem ++ "XXXXXX'")

/-- What comes of staging a copy of `source` under the name `placeholder`, and the files that are
    left: the directory is made first, and removed again when the copy fails. -/
def tryStage (tree : FileTree) (temporary source placeholder : String) :
    Except Failure Staged × FileTree :=
  match tree.locateDirectory temporary.toList with
  | .error refusal => (.error (noTemporary temporary refusal), tree)
  | .ok place =>
    let taken := tree.names place
    let name := freshName taken taken.length 6
    let path := Path.Posix.join [temporary.toList, name.toList]
    let directory := place ++ [name]
    let made := tree.insert directory .directory
    match copyRefusal made source.toList (Path.Posix.join [path, placeholder.toList]) with
    | .ok copied => (.ok ⟨copied, directory, String.ofList path⟩, copied)
    | .error reason => (.error (.client (.cannotRelocate source reason)), made.remove directory)

/-- The staging directory with a copy of `source` under the name `placeholder`. -/
def stage (tree : FileTree) (temporary source placeholder : String) : Except Failure Staged :=
  (tryStage tree temporary source placeholder).1

end ImageBuild.Archive
