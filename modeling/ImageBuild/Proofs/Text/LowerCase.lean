import ImageBuild.Text.LowerCase
import ImageBuild.Text.Units

namespace ImageBuild.Text

/-!
# Small letters of ASCII texts — what the letter-case map does to them

In ASCII every character has one small letter and takes one unit, so that `lower` maps an ASCII text
character by character and keeps its length (`lower_of_isAscii`, `unitLength_of_isAscii`).  What is
no letter is not the small letter of anything else (`asciiLower_eq_iff`).
-/

/-- A text of ASCII characters. -/
def IsAscii (s : List Char) : Prop := ∀ c ∈ s, c.toNat < 0x80

/-- Capital letters become small letters, and nothing else changes. -/
theorem asciiLower_cases (c : Char) :
    (65 ≤ c.toNat ∧ c.toNat ≤ 90 ∧ (asciiLower c).toNat = c.toNat + 32) ∨ asciiLower c = c := by
  unfold asciiLower
  split
  · rename_i hcapital
    obtain ⟨hlow, hhigh⟩ : 65 ≤ c.toNat ∧ c.toNat ≤ 90 := hcapital
    have hvalid : (c.toNat + 32).isValidChar := Or.inl (by omega)
    refine .inl ⟨hlow, hhigh, ?_⟩
    rw [Char.ofNat, dif_pos hvalid]
    rfl
  · exact .inr rfl

/-- The small letter of an ASCII character is one. -/
theorem asciiLower_lt {c : Char} (hc : c.toNat < 0x80) : (asciiLower c).toNat < 0x80 := by
  rcases asciiLower_cases c with ⟨-, hhigh, heq⟩ | heq
  · omega
  · rwa [heq]

/-- A character that is no ASCII letter is the small letter of itself alone. -/
theorem asciiLower_eq_iff {d : Char} (hd : d.toNat < 65 ∨ 90 < d.toNat ∧ d.toNat < 97) (c : Char) :
    asciiLower c = d ↔ c = d := by
  rcases asciiLower_cases c with ⟨hlow, hhigh, heq⟩ | heq
  · constructor
    · rintro rfl
      omega
    · rintro rfl
      omega
  · rw [heq]

/-- The small letters of an ASCII text are those of its characters, whatever stands before it. -/
theorem lowerFrom_of_isAscii {s : List Char} (h : IsAscii s) (before : List Char) :
    lowerFrom before s = s.map asciiLower := by
  induction s generalizing before with
  | nil => rfl
  | cons c s ih =>
    have hc : c.toNat < 0x80 := h c (by simp)
    -- the capital sigma is no ASCII character
    have hsigma : c ≠ capitalSigma := by
      rintro rfl
      exact absurd hc (by decide)
    rw [lowerFrom, ih (fun d hd => h d (by simp [hd]))]
    simp [hsigma, lowerChar, hc]

/-- The small letters of an ASCII text are those of its characters. -/
theorem lower_of_isAscii {s : List Char} (h : IsAscii s) : lower s = s.map asciiLower :=
  lowerFrom_of_isAscii h []

/-- An ASCII text has as many units as characters. -/
theorem unitLength_of_isAscii {s : List Char} (h : IsAscii s) : unitLength s = s.length := by
  induction s with
  | nil => rfl
  | cons c s ih =>
    have hc : c.toNat < 0x80 := h c (by simp)
    have hunits : unitsOf c = 1 := by
      have hbasic : c.toNat < 0x10000 := by omega
      simp [unitsOf, unitList, hbasic]
    rw [unitLength, ih (fun d hd => h d (by simp [hd])), hunits, List.length_cons]
    omega

end ImageBuild.Text
