import ImageBuild.Text.Hex

namespace ImageBuild.Text

/-!
# Hexadecimal digits — as many as asked for, small, and read back to the same number
-/

/-- The sixteen digits, in small letters. -/
def smallHexDigits : List Char := "0123456789abcdef".toList

/-- Every value below sixteen is written as one of the sixteen digits. -/
theorem hexDigit_mem {n : Nat} (hn : n < 16) : hexDigit n ∈ smallHexDigits := by
  have all : ∀ k : Fin 16, hexDigit k ∈ smallHexDigits := by decide
  exact all ⟨n, hn⟩

/-- A digit has the value that it was written for. -/
theorem hexValue?_hexDigit {n : Nat} (hn : n < 16) : hexValue? (hexDigit n) = some n := by
  have all : ∀ k : Fin 16, hexValue? (hexDigit k) = some k.val := by decide
  exact all ⟨n, hn⟩

/-- As many digits are written as were asked for. -/
@[simp] theorem length_hexDigits (count n : Nat) : (hexDigits count n).length = count := by
  induction count generalizing n with
  | zero => rfl
  | succ count ih => simp [hexDigits, ih]

/-- Only the sixteen digits are written. -/
theorem mem_hexDigits {count n : Nat} {c : Char} (hc : c ∈ hexDigits count n) :
    c ∈ smallHexDigits := by
  induction count generalizing n with
  | zero => simp [hexDigits] at hc
  | succ count ih =>
    rw [hexDigits, List.mem_append, List.mem_singleton] at hc
    rcases hc with hc | rfl
    · exact ih hc
    · exact hexDigit_mem (Nat.mod_lt n (by decide))

end ImageBuild.Text
