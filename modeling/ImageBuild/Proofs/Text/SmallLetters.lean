import ImageBuild.Proofs.Text.LowerCase
import ImageBuild.Proofs.Text.Split

namespace ImageBuild.Text

/-!
# Small letters of every text — lengths and pieces

Beyond ASCII, a character may become several, and the small letter of the capital sigma hangs on what
stands around it.  What is left is enough for comparing paths:

* `units_lowerFrom` — a text takes no fewer units in small letters, and where it takes as many it has
  as many characters, too;
* `split_lower` — small letters neither make nor take a backslash, and what stands on one side of it
  does not matter on the other, so that the pieces of a text are made small one by one.

Both come from what the tables of letters say of single characters (`replaces_lowerChar`).
-/

/-! ### What the tables say -/

/-- The characters of a text that is written out.  Unification finds them at once, where evaluating a
    table character by character would take long. -/
theorem toList_of_eq_ofList {s : String} {cs : List Char} (h : s = String.ofList cs) :
    s.toList = cs := by
  rw [h, String.toList_ofList]

/-- Backslashes are no letters, and end words. -/
theorem backslash_ends_words : insideWords.has '\\' = false ∧ casedLetters.has '\\' = false := by
  rw [insideWords, casedLetters, Ranges.ofText, Ranges.ofText, toList_of_eq_ofList rfl,
    toList_of_eq_ofList rfl]
  decide +kernel

/-- An entry of the capitals gives every letter of its range one small letter of as many units, or
    one that takes one unit several small letters; none of them is a backslash. -/
def givesLetters : Range × List Nat → Bool
  | (range, [value]) =>
    let last := value + (range.last - range.first)
    0x5C < value &&
      ((range.last < 0x10000 && last < 0x10000) ||
        (0x10000 ≤ range.first && range.last < 0x70000 && 0x10000 ≤ value && last < 0x70000))
  | (range, values) => range.last < 0x10000 && 2 ≤ values.length && values.all (0x5C < ·)

/-- All entries of the capitals give small letters. -/
theorem givesLetters_capitals : capitals.all givesLetters = true := by
  rw [capitals, RangeMap.ofText, toList_of_eq_ofList rfl]
  decide +kernel

/-! ### Small letters of one character -/

/-- A character is written in the units of a basic one. -/
theorem unitsOf_basic {c : Char} (h : c.toNat < 0x10000) : unitsOf c = 1 := by
  simp [unitsOf, unitList, h]

/-- A character beyond the basic ones is written in two units, when it is no half of a pair. -/
theorem unitsOf_beyond {c : Char} (h : 0x10000 ≤ c.toNat) (h' : c.toNat < 0x70000) :
    unitsOf c = 2 := by
  have hbasic : ¬ c.toNat < 0x10000 := by omega
  have hhalf : halfOf? c = none := by
    rw [halfOf?, if_neg (by omega)]
  simp [unitsOf, unitList, hbasic, hhalf]

/-- Every character takes a unit. -/
theorem unitsOf_pos (c : Char) : 1 ≤ unitsOf c := by
  unfold unitsOf unitList
  dsimp only
  split
  · simp
  · split <;> simp

/-- The number of a character is the one that it is made from, or there is none of this number. -/
theorem toNat_ofNat_cases (n : Nat) : (Char.ofNat n).toNat = n ∨ Char.ofNat n = Char.ofNat 0 := by
  by_cases h : n.isValidChar
  · exact .inl (by rw [Char.ofNat, dif_pos h]; rfl)
  · exact .inr (by rw [Char.ofNat, dif_neg h]; rfl)

/-- The characters that stand for a character in small letters: one of as many units, or several for
    one that takes one unit.  A backslash stands for itself, and for nothing else. -/
inductive Replaces : List Char → Char → Prop
  | one {c d : Char} (hunits : unitsOf d = unitsOf c) (hbackslash : d = '\\' ↔ c = '\\') :
    Replaces [d] c
  | several {cs : List Char} {c : Char} (hunits : unitsOf c = 1) (hlength : 2 ≤ cs.length)
    (hfree : '\\' ∉ cs) (hbackslash : c ≠ '\\') : Replaces cs c

/-- A character stands for itself. -/
theorem Replaces.self (c : Char) : Replaces [c] c := .one rfl Iff.rfl

/-- A character made from a number above that of the backslash is none. -/
theorem ofNat_ne_backslash {n : Nat} (h : 0x5C < n) : Char.ofNat n ≠ '\\' := by
  intro heq
  rcases toNat_ofNat_cases n with hn | hn
  · rw [heq] at hn
    exact absurd hn (by simp only [Char.reduceToNat]; omega)
  · rw [heq] at hn
    exact absurd hn (by decide)

/-- A basic character is made from every number of one. -/
theorem unitsOf_ofNat_basic {n : Nat} (h : n < 0x10000) : unitsOf (Char.ofNat n) = 1 := by
  rcases toNat_ofNat_cases n with hn | hn
  · exact unitsOf_basic (by omega)
  · rw [hn]
    decide

/-- A range has codes between its ends. -/
theorem bounds_of_has {r : Range} {n : Nat} (h : r.has n = true) : r.first ≤ n ∧ n ≤ r.last := by
  simp only [Range.has, Bool.and_eq_true, decide_eq_true_eq] at h
  exact h.1

/-- A single small letter for every capital of a range stands for each of them. -/
theorem replaces_of_value {range : Range} {value : Nat}
    (hentry : givesLetters (range, [value]) = true) {c : Char} (hc : 0x80 ≤ c.toNat)
    (hin : range.has c.toNat = true) :
    Replaces [Char.ofNat (value + (c.toNat - range.first))] c := by
  obtain ⟨hfirst, hlast⟩ := bounds_of_has hin
  simp only [givesLetters, Bool.and_eq_true, Bool.or_eq_true, decide_eq_true_eq] at hentry
  obtain ⟨hlow, hplane⟩ := hentry
  have hbackslash : c ≠ '\\' := by
    rintro rfl
    exact absurd hc (by decide)
  have hnot : Char.ofNat (value + (c.toNat - range.first)) ≠ '\\' :=
    ofNat_ne_backslash (by omega)
  refine .one ?_ (by simp [hnot, hbackslash])
  rcases hplane with ⟨hrange, hvalue⟩ | ⟨⟨⟨hrange, hrange'⟩, hvalue⟩, hvalue'⟩
  · rw [unitsOf_ofNat_basic (by omega), unitsOf_basic (c := c) (by omega)]
  · have hnumber : (Char.ofNat (value + (c.toNat - range.first))).toNat =
        value + (c.toNat - range.first) := by
      rw [Char.ofNat, dif_pos (Or.inr ⟨by omega, by omega⟩)]
      rfl
    rw [unitsOf_beyond (by omega) (by omega), unitsOf_beyond (c := c) (by omega) (by omega)]

/-- Several small letters stand for every capital that has them. -/
theorem replaces_of_values {range : Range} {values : List Nat} (hseveral : values.length ≠ 1)
    (hentry : givesLetters (range, values) = true) {c : Char} (hc : 0x80 ≤ c.toNat)
    (hin : range.has c.toNat = true) : Replaces (values.map Char.ofNat) c := by
  obtain ⟨-, hlast⟩ := bounds_of_has hin
  unfold givesLetters at hentry
  split at hentry
  · rename_i heq
    cases heq
    exact absurd rfl hseveral
  · rename_i heq
    cases heq
    simp only [Bool.and_eq_true, decide_eq_true_eq, List.all_eq_true] at hentry
    obtain ⟨⟨hrange, hlength⟩, hlow⟩ := hentry
    refine .several (unitsOf_basic (by omega)) (by simpa using hlength) ?_ ?_
    · intro hmem
      obtain ⟨value, hvalue, heq⟩ := List.mem_map.1 hmem
      exact ofNat_ne_backslash (hlow value hvalue) heq
    · rintro rfl
      exact absurd hc (by decide)

/-- The small letters that a map gives for a character stand for it, where all entries of the map
    give small letters. -/
theorem replaces_image {m : RangeMap} (hm : m.all givesLetters = true) {c : Char}
    (hc : 0x80 ≤ c.toNat) {small : List Char} (h : m.image? c = some small) : Replaces small c := by
  obtain ⟨⟨range, values⟩, hfound, rfl⟩ := Option.map_eq_some_iff.1 h
  have hentry := List.all_eq_true.1 hm _ (List.mem_of_find?_eq_some hfound)
  have hin : range.has c.toNat = true := by simpa using List.find?_some hfound
  dsimp only
  split
  · exact replaces_of_value hentry hc hin
  · rename_i hone
    refine replaces_of_values (fun hlength => ?_) hentry hc hin
    obtain ⟨value, rfl⟩ := List.length_eq_one_iff.1 hlength
    exact hone value rfl

/-- The small letters of a character stand for it. -/
theorem replaces_lowerChar (c : Char) : Replaces (lowerChar c) c := by
  unfold lowerChar
  split
  · rename_i hc
    have hsmall := asciiLower_lt hc
    refine .one ?_ (asciiLower_eq_iff (by decide) c)
    rw [unitsOf_basic (c := c) (by omega), unitsOf_basic (by omega)]
  · rename_i hc
    cases himage : capitals.image? c with
    | none => exact .self c
    | some small => exact replaces_image givesLetters_capitals (by omega) himage

/-! ### Small letters of a text -/

/-- A text is made small character by character, though its surroundings decide about the capital
    sigma. -/
theorem exists_lowerFrom_cons (before : List Char) (c : Char) (s : List Char) :
    ∃ small, Replaces small c ∧
      lowerFrom before (c :: s) = small ++ lowerFrom (c :: before) s := by
  rw [lowerFrom]
  refine ⟨_, ?_, rfl⟩
  split
  · rename_i hsigma
    rw [hsigma.1]
    exact .one (by decide) (by decide)
  · exact replaces_lowerChar c

/-- The units of two texts are counted one after the other. -/
theorem unitLength_append (a b : List Char) : unitLength (a ++ b) = unitLength a + unitLength b := by
  induction a with
  | nil => simp [unitLength]
  | cons c a ih => rw [List.cons_append, unitLength, unitLength, ih, Nat.add_assoc]

/-- A text has at least as many units as characters. -/
theorem length_le_unitLength (s : List Char) : s.length ≤ unitLength s := by
  induction s with
  | nil => simp
  | cons c s ih =>
    have := unitsOf_pos c
    rw [unitLength, List.length_cons]
    omega

/-- What stands for a character takes no fewer units, and is one character when it takes as many. -/
theorem Replaces.units {small : List Char} {c : Char} (h : Replaces small c) :
    unitsOf c ≤ unitLength small ∧ (unitLength small = unitsOf c → small.length = 1) := by
  cases h with
  | @one _ d hunits => simp [unitLength, hunits]
  | several hunits hlength =>
    have := length_le_unitLength small
    omega

/-- A text takes no fewer units in small letters, and has as many characters when it takes as many
    units. -/
theorem units_lowerFrom (before s : List Char) :
    unitLength s ≤ unitLength (lowerFrom before s) ∧
      (unitLength (lowerFrom before s) = unitLength s →
        (lowerFrom before s).length = s.length) := by
  induction s generalizing before with
  | nil => exact ⟨Nat.le_refl _, fun _ => rfl⟩
  | cons c s ih =>
    obtain ⟨small, hsmall, hcons⟩ := exists_lowerFrom_cons before c s
    obtain ⟨hle, hlength⟩ := ih (c :: before)
    obtain ⟨hunits, hone⟩ := hsmall.units
    -- neither part takes fewer units, so where the sum stays both of them stay
    rw [hcons, unitLength_append, unitLength, List.length_append, List.length_cons]
    refine ⟨by omega, fun heq => ?_⟩
    rw [hone (by omega), hlength (by omega)]
    omega

/-- A backslash in small letters is one in the text. -/
theorem mem_lowerFrom_backslash {before s : List Char} (h : '\\' ∈ lowerFrom before s) :
    '\\' ∈ s := by
  induction s generalizing before with
  | nil => exact h
  | cons c s ih =>
    obtain ⟨small, hsmall, hcons⟩ := exists_lowerFrom_cons before c s
    rw [hcons, List.mem_append] at h
    rcases h with h | h
    · cases hsmall with
      | one hunits hbackslash =>
        rw [hbackslash.1 (List.mem_singleton.1 h).symm]
        exact List.mem_cons_self
      | several _ _ hfree => exact absurd h hfree
    · exact List.mem_cons_of_mem c (ih h)

/-- Only an empty text is empty in small letters. -/
theorem lower_eq_nil_iff (s : List Char) : lower s = [] ↔ s = [] := by
  constructor
  · intro h
    have hle := (units_lowerFrom [] s).1
    have hlength := length_le_unitLength s
    rw [show lowerFrom [] s = [] from h, unitLength] at hle
    exact List.length_eq_zero_iff.1 (by omega)
  · rintro rfl
    rfl

/-! ### Pieces between backslashes -/

/-- A word ends at a backslash. -/
theorem startsCased_append_backslash (s t : List Char) :
    startsCased (s ++ '\\' :: t) = startsCased s := by
  obtain ⟨hinside, hcased⟩ := backslash_ends_words
  unfold startsCased
  rw [List.dropWhile_append]
  cases hrest : s.dropWhile insideWords.has with
  | nil =>
    rw [List.isEmpty_nil, if_pos rfl, List.dropWhile_cons_of_neg (by simp [hinside])]
    exact hcased
  | cons c rest => rfl

/-- What stands before a backslash does not matter to the characters behind it. -/
theorem lowerFrom_append_backslash (front before s : List Char) :
    lowerFrom (front ++ '\\' :: before) s = lowerFrom front s := by
  induction s generalizing front with
  | nil => rfl
  | cons c s ih =>
    have hrest := ih (c :: front)
    rw [List.cons_append] at hrest
    rw [lowerFrom, lowerFrom, startsCased_append_backslash, hrest]

/-- A backslash parts the small letters of both sides. -/
theorem lowerFrom_backslash (before a b : List Char) :
    lowerFrom before (a ++ '\\' :: b) = lowerFrom before a ++ '\\' :: lower b := by
  induction a generalizing before with
  | nil =>
    have hrest : lowerFrom ('\\' :: before) b = lower b := lowerFrom_append_backslash [] before b
    have hsigma : '\\' ≠ capitalSigma := by decide
    rw [List.nil_append, show lowerFrom before [] = [] from rfl, lowerFrom, hrest,
      if_neg fun h => hsigma h.1]
    rfl
  | cons c a ih =>
    rw [List.cons_append, lowerFrom, lowerFrom, startsCased_append_backslash, ih, List.append_assoc]

/-- A backslash parts the small letters of both sides. -/
theorem lower_append_backslash (a b : List Char) :
    lower (a ++ '\\' :: b) = lower a ++ '\\' :: lower b := lowerFrom_backslash [] a b

/-- Where a text takes as many units in small letters, what stands before a backslash has as many
    characters. -/
theorem length_lower_of_units {a b : List Char}
    (h : unitLength (a ++ '\\' :: b) = unitLength (lower (a ++ '\\' :: b))) :
    (lower a).length = a.length := by
  rw [lower_append_backslash, unitLength_append, unitLength_append, unitLength, unitLength] at h
  obtain ⟨ha, hlength⟩ := units_lowerFrom [] a
  have hb : unitLength b ≤ unitLength (lower b) := (units_lowerFrom [] b).1
  have htotal : unitLength (lower a) = unitLength a := by
    change unitLength a ≤ unitLength (lower a) at ha
    omega
  exact hlength htotal

/-- A join in small letters is the join of its pieces in small letters. -/
theorem lower_join (pieces : List (List Char)) :
    lower (join '\\' pieces) = join '\\' (pieces.map lower) := by
  fun_induction join '\\' pieces with
  | case1 => rfl
  | case2 piece => rfl
  | case3 piece rest hrest ih =>
    obtain ⟨next, pieces, rfl⟩ := List.exists_cons_of_ne_nil (show rest ≠ [] by simpa using hrest)
    rw [lower_append_backslash, ih]
    rfl

/-- The pieces of a text in small letters are its pieces in small letters. -/
theorem split_lower (s : List Char) :
    split (· == '\\') (lower s) = (split (· == '\\') s).map lower := by
  have hne : (split (· == '\\') s).map lower ≠ [] := by
    obtain ⟨piece, pieces, hs⟩ := exists_split_eq_cons (· == '\\') s
    simp [hs]
  have hfree : ∀ piece ∈ (split (· == '\\') s).map lower, ∀ c ∈ piece, (c == '\\') = false := by
    intro piece hpiece c hc
    obtain ⟨own, hown, rfl⟩ := List.mem_map.1 hpiece
    rw [beq_eq_false_iff_ne]
    rintro rfl
    exact absurd (free_of_mem_split hown _ (mem_lowerFrom_backslash hc)) (by decide)
  calc split (· == '\\') (lower s)
      = split (· == '\\') (lower (join '\\' (split (· == '\\') s))) := by rw [join_split]
    _ = (split (· == '\\') s).map lower := by rw [lower_join, split_join rfl hne hfree]

end ImageBuild.Text
