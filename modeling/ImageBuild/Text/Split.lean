namespace ImageBuild.Text

/-!
# Splitting — a text as its pieces between separators, and back
-/

/-- The pieces of a text between separators, empty ones included. -/
def split (isSeparator : Char → Bool) : List Char → List (List Char)
  | [] => [[]]
  | c :: s =>
    if isSeparator c then [] :: split isSeparator s
    else
      match split isSeparator s with
      | [] => [[c]]
      | piece :: pieces => (c :: piece) :: pieces

/-- Pieces joined by a separator. -/
def join (separator : Char) : List (List Char) → List Char
  | [] => []
  | [piece] => piece
  | piece :: pieces => piece ++ separator :: join separator pieces

/-- The words of a text, which blanks and line breaks part. -/
def words (s : List Char) : List (List Char) :=
  (split (fun c => c == ' ' || c == '\n') s).filter (· ≠ [])

end ImageBuild.Text
