import ImageBuild.Number.Basic
import ImageBuild.Text.Units

namespace ImageBuild.Text

/-!
# Truncation — texts cut to a length, with a mark of the cut
-/

/-- The mark of a cut. -/
def ellipsis : String := "..."

/-- A text of at most `limit` units as it is; a longer one cut to as many, with a mark behind it. -/
def truncate (s : String) (limit : Number) (mark : String) : String :=
  let length : Number := .finite (unitLength s.toList)
  if Number.le length limit then s
  else String.ofList (takeUnits (limit.toNat?.getD 0) s.toList) ++ mark

end ImageBuild.Text
