import ImageBuild.Text.Split

namespace ImageBuild.Path

/-!
# Segments — paths as lists of names

A path is split at its separators.  `collapse` evaluates the pieces: empty pieces and `.` vanish and
`..` takes back the name before it.  At the top, `..` vanishes below a fixed root and stays where
there is none.
-/

/-- The directory itself. -/
def dot : List Char := ['.']

/-- The parent directory. -/
def dotDot : List Char := ['.', '.']

/-- The names kept so far, nearest first, after one more piece.  `rooted` says that there is nothing
    above the first name. -/
def push (rooted : Bool) (kept : List (List Char)) (piece : List Char) : List (List Char) :=
  if piece = [] ∨ piece = dot then kept
  else if piece = dotDot then
    match kept with
    | [] => if rooted then [] else [dotDot]
    | name :: rest => if name = dotDot then dotDot :: kept else rest
  else piece :: kept

/-- The names that a sequence of pieces leads to. -/
def collapse (rooted : Bool) (pieces : List (List Char)) : List (List Char) :=
  (pieces.foldl (push rooted) []).reverse

/-- How many names two paths have in common at their front. -/
def commonLength : List (List Char) → List (List Char) → Nat
  | a :: as, b :: bs => if a = b then commonLength as bs + 1 else 0
  | _, _ => 0

end ImageBuild.Path
