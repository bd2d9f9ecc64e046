import ImageBuild.FileTree

namespace ImageBuild.Archive

/-!
# The archiver — what `tar` makes of the arguments of a build

The archive holds the whole context under `.`, and after it the staged Dockerfile under its own
name. Names that cannot be found are reported and make the archiver fail in the end; a directory
that cannot be entered makes it fail at once.
-/

/-- A member of an archive. -/
inductive Entry
  | directory (name : String)
  | file (name : String) (content : List UInt8)
deriving DecidableEq, Repr

/-- What an archiver writes. -/
inductive Content
  | entries (entries : List Entry)
  | bytes (bytes : List UInt8)
deriving DecidableEq, Repr

/-- How an archiver ends. -/
structure Outcome where
  content : Content
  complaint : List UInt8 := []
  /-- Nothing when it was killed. -/
  exitCode : Option Nat := some 0
deriving DecidableEq, Repr

/-- The arguments that make the archiver pack a context, and a staged file after it. -/
def arguments (contextRoot : String) (staging placeholder : Option String) : List String :=
  let context := ["-c", "-f", "-", "-C", contextRoot, "."]
  match staging, placeholder with
  | some staging, some placeholder =>
    if staging.isEmpty || placeholder.isEmpty then context
    else context ++ ["-C", staging, placeholder]
  | _, _ => context

namespace Tar

/-- A byte of a name in a message: what is not printable in ASCII is escaped. -/
def escapeByte (b : UInt8) : List Char :=
  let n := b.toNat
  let c := Char.ofNat n
  let octal (d : Nat) : Char := Char.ofNat ('0'.toNat + d)
  match [(7, 'a'), (8, 'b'), (9, 't'), (10, 'n'), (11, 'v'), (12, 'f'), (13, 'r'),
    (92, '\\')].lookup n with
  | some letter => ['\\', letter]
  | none =>
    if 0x20 ≤ n ∧ n < 0x7F then [c] else ['\\', octal (n / 64), octal (n / 8 % 8), octal (n % 8)]

/-- A name in a message. -/
def escapeName (name : String) : String :=
  String.ofList ((Text.Utf8.encode name.toList).flatMap escapeByte)

/-- A line that the archiver complains with. -/
def complain (line : String) : List UInt8 := Text.Utf8.encode ("tar: " ++ line ++ "\n").toList

/-- The members that something in a tree gives under a name. -/
def entriesUnder (tree : FileTree) (place : Location) (name : String) : Node → List Entry
  | .file content _ => [.file name content]
  | .directory =>
    .directory (name ++ "/") :: (tree.below place).map fun (rest, node) =>
      let name := name ++ "/" ++ "/".intercalate rest
      match node with
      | .directory => .directory (name ++ "/")
      | .file content _ => .file name content

/-- The groups of names among the arguments, each with the directory that it is looked up in. -/
def groups : List String → List (String × String)
  | "-C" :: directory :: name :: rest => (directory, name) :: groups rest
  | _ => []

/-- What has been packed so far, and what was wrong. -/
structure Progress where
  entries : List Entry := []
  complaint : List UInt8 := []

/-- How the archiver ends when all groups have been seen. -/
def finish (p : Progress) : Outcome :=
  if p.complaint.isEmpty then { content := .entries p.entries }
  else
    { content := .entries p.entries
      complaint :=
        p.complaint ++ complain "Exiting with failure status due to previous errors"
      exitCode := some 2 }

/-- How the archiver ends when it is to pack some more groups. -/
def pack (tree : FileTree) (p : Progress) : List (String × String) → Outcome
  | [] => finish p
  | (directory, name) :: rest =>
    match tree.locateDirectory directory.toList with
    | .error refusal =>
      { content := .entries p.entries
        complaint := p.complaint ++
          complain (escapeName directory ++ ": Cannot open: " ++ refusal.text) ++
          complain "Error is not recoverable: exiting now"
        exitCode := some 2 }
    | .ok place =>
      let found := do
        let place ← tree.walk place (Text.split (· == '/') name.toList)
        match tree.node? place with
        | some node => Except.ok (entriesUnder tree place name node)
        | none => Except.error Refusal.noEntry
      match found with
      | .ok entries => pack tree { p with entries := p.entries ++ entries } rest
      | .error refusal =>
        let line := complain (escapeName name ++ ": Cannot stat: " ++ refusal.text)
        pack tree { p with complaint := p.complaint ++ line } rest

/-- What the archiver makes of its arguments. -/
def run (tree : FileTree) (arguments : List String) : Outcome :=
  pack tree {} (groups (arguments.drop 3))

end Tar

end ImageBuild.Archive
