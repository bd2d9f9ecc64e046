import ImageBuild.Proofs.Number
import ImageBuild.Proofs.Text.SmallLetters
import ImageBuild.Text.Truncate

namespace ImageBuild.Text

/-!
# Truncation — what a cut leaves

Of a text that is longer than the limit and can be parted there, the front is left with the mark
behind it, and what stood behind the front does not matter (`truncate_append`).
-/

/-- The units of the front of a text are its first units. -/
theorem takeUnits_append (front rest : List Char) :
    takeUnits (unitLength front) (front ++ rest) = front := by
  induction front with
  | nil => cases rest <;> rfl
  | cons c front ih =>
    have hpos := unitsOf_pos c
    rw [List.cons_append, unitLength, takeUnits, if_neg (by omega), if_neg (by omega),
      Nat.add_sub_cancel_left, ih]

/-- A text that goes on behind the limit is cut there. -/
theorem truncate_append {front rest : List Char} (hrest : rest ≠ []) (mark : String) :
    truncate (String.ofList (front ++ rest)) (.finite (unitLength front)) mark =
      String.ofList front ++ mark := by
  have hlong : ¬ Number.le (.finite (unitLength (front ++ rest)))
      (.finite (unitLength front)) = true := by
    obtain ⟨c, rest, rfl⟩ := List.exists_cons_of_ne_nil hrest
    have hpos := unitsOf_pos c
    rw [le_natCast_iff, unitLength_append, unitLength]
    omega
  have hlimit : (Number.finite (unitLength front)).toNat? = some (unitLength front) :=
    congrArg (fun i : Int => some i.toNat) (Rat.floor_intCast (unitLength front))
  rw [truncate, String.toList_ofList]
  exact (if_neg hlong).trans (by rw [hlimit, Option.getD_some, takeUnits_append])

end ImageBuild.Text
