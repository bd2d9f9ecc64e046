namespace ImageBuild.Text

/-!
# Fronts — a word at the front of a text, and what follows it

`dropWord?` takes the word letter for letter; `dropAnyCase?` does not tell ASCII capitals from small
letters.
-/

/-- What follows a word at the front of a text. -/
def dropWord? : List Char → List Char → Option (List Char)
  | [], s => some s
  | _ :: _, [] => none
  | w :: word, c :: s => if c = w then dropWord? word s else none

/-- An ASCII capital letter as its small letter; every other character as it is. -/
def asciiLower (c : Char) : Char :=
  if 'A' ≤ c ∧ c ≤ 'Z' then Char.ofNat (c.toNat + 32) else c

/-- What follows `word`, given in ASCII small letters, at the front of a text that has it there in
    any mix of ASCII letter cases. -/
def dropAnyCase? : List Char → List Char → Option (List Char)
  | [], s => some s
  | _ :: _, [] => none
  | w :: word, c :: s => if asciiLower c = w then dropAnyCase? word s else none

end ImageBuild.Text
