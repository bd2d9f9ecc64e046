import ImageBuild.Text.Units

namespace ImageBuild.CommandLine

/-!
# Suggestions — what an unknown name may have been meant to be

Names are compared by the number of insertions, deletions, replacements and transpositions that lead
from one to the other, no letter being moved twice.  Of the names that are near enough the nearest
are suggested.
-/

/-- The greatest distance of a suggestion. -/
def maxDistance : Nat := 3

/-! ### Distance -/

section

variable {α : Type} [DecidableEq α]

/-- The distances of `a`, read up to one more letter, from the front parts of `b`.  Here `letter` is
    that letter and `last` the one before it, `left` the distance just found, `above` the distances
    without the letter, and `aboveThat` those without the last as well, one place behind. -/
def nextDistances (letter : α) (last : Option α) :
    (left : Nat) → (previous : Option α) → (b : List α) → (above : List Nat) →
      (aboveThat : List (Option Nat)) → List Nat
  | left, previous, c :: b, diagonal :: up :: above, aboveThat =>
    let plain := min (min (up + 1) (left + 1)) (diagonal + if letter = c then 0 else 1)
    let here :=
      match aboveThat.head?.join with
      | some swapped =>
        if previous = some letter ∧ last = some c then min plain (swapped + 1) else plain
      | none => plain
    here :: nextDistances letter last here (some c) b (up :: above) aboveThat.tail
  | _, _, _, _, _ => []

/-- The distances of `a` from the front parts of `b`, when `above` holds those for what was read of
    `a` so far, up to `last`, and `aboveThat` those for one letter less. -/
def distances (b : List α) : (a : List α) → (last : Option α) → (above : List Nat) →
    (aboveThat : List (Option Nat)) → List Nat
  | [], _, above, _ => above
  | letter :: a, last, above, aboveThat =>
    let start := above.headD 0 + 1
    let here := start :: nextDistances letter last start none b above (none :: aboveThat)
    distances b a (some letter) here (above.map some)

/-- The distance of two names; names whose lengths differ too much are as far apart as can be. -/
def distance (a b : List α) : Nat :=
  if maxDistance < max a.length b.length - min a.length b.length then max a.length b.length
  else (distances b a none (List.range (b.length + 1)) []).getLastD 0

end

/-! ### Suggestions -/

/-- A name without repetitions in a list, the first one staying. -/
def withoutRepetitions (names : List String) : List String :=
  names.foldl (fun seen name => if seen.contains name then seen else seen ++ [name]) []

/-- Whether two names of the given length and distance are alike: more than two letters of five. -/
def isSimilar (length distance : Nat) : Bool := 2 * length < 5 * (length - distance)

/-- The candidates nearest to a name among those that are near enough, and their distance. -/
def nearest (name : String) (candidates : List String) : Nat × List String :=
  candidates.foldl (fun (best, found) candidate =>
    let a := name.toList.flatMap Text.unitList
    let b := candidate.toList.flatMap Text.unitList
    let d := distance a b
    if b.length ≤ 1 ∨ !isSimilar (max a.length b.length) d then (best, found)
    else if d < best then (d, [candidate])
    else if d = best then (best, found ++ [candidate])
    else (best, found)) (maxDistance, [])

/-- The line that suggests what a name may have been meant to be; empty when there is nothing near.
    Long options are compared without their hyphens. -/
def suggestion (name : String) (candidates : List String) : String :=
  let isOption := "--".toList.isPrefixOf name.toList
  let bare (s : String) : String := if isOption then String.ofList (s.toList.drop 2) else s
  let found := (nearest (bare name) ((withoutRepetitions candidates).map bare)).2
  let shown := (found.mergeSort (fun a b => a ≤ b)).map fun s => if isOption then "--" ++ s else s
  match shown with
  | [] => ""
  | [only] => "\n(Did you mean " ++ only ++ "?)"
  | several => "\n(Did you mean one of " ++ ", ".intercalate several ++ "?)"

end ImageBuild.CommandLine
