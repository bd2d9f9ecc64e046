import ImageBuild.Json.Parser
import ImageBuild.Json.Printer
import ImageBuild.Proofs.Text.Hex

namespace ImageBuild.Json

/-!
# Printed strings — what is written between quotes reads back to the same text

Reading goes through the codes of a string.  `codesOf` is what the codes of a printed text are:
printing writes them (`stringCodes?_escapeAll`), and their characters are the text (`charsOf_codesOf`).
Together they give `readString?_quote`, for every text and whatever follows the closing quote.
-/

/-! ### Codes and characters -/

/-- The code of a character that is written for itself or as half of a pair that stands alone. -/
def codeOf (c : Char) : Nat :=
  match Text.halfOf? c with
  | some unit => unit
  | none => c.toNat

/-- The codes of a printed text. -/
def codesOf : List Char → List Nat
  | [] => []
  | [c] => [codeOf c]
  | c :: d :: s =>
    if Text.isSplitPair c d then c.toNat :: d.toNat :: codesOf s else codeOf c :: codesOf (d :: s)

/-- What stands for half of a pair lies in plane seven. -/
theorem halfOf?_eq_some {c : Char} {unit : Nat} (h : Text.halfOf? c = some unit) :
    c.toNat = 0x70000 + unit ∧ 0xD800 ≤ unit ∧ unit < 0xE000 := by
  unfold Text.halfOf? at h
  split at h
  · rw [Option.some.injEq] at h
    omega
  · simp at h

/-- No character has the code of half of a pair. -/
theorem not_isSurrogate_toNat (c : Char) :
    isLeading c.toNat = false ∧ isTrailing c.toNat = false := by
  have hvalid : c.toNat < 0xD800 ∨ (0xDFFF < c.toNat ∧ c.toNat < 0x110000) := c.valid
  simp only [isLeading, isTrailing, Bool.and_eq_false_iff, decide_eq_false_iff_not]
  omega

/-- A character is that of its number. -/
theorem charOf_toNat (c : Char) : charOf c.toNat = c := by
  simp [charOf, not_isSurrogate_toNat c]

/-- A character is that of its code. -/
theorem charOf_codeOf (c : Char) : charOf (codeOf c) = c := by
  unfold codeOf
  cases hhalf : Text.halfOf? c with
  | none => exact charOf_toNat c
  | some unit =>
    obtain ⟨hc, hlow, hhigh⟩ := halfOf?_eq_some hhalf
    have hsurrogate : (isLeading unit || isTrailing unit) = true := by
      simp only [isLeading, isTrailing, Bool.or_eq_true, Bool.and_eq_true, decide_eq_true_eq]
      omega
    simp only [charOf, hsurrogate, if_true, Text.loneHalf, ← hc, Char.ofNat_toNat]

/-- A code that does not begin a pair gives a character of its own. -/
theorem charsOf_cons {code : Nat} (h : isLeading code = false) (codes : List Nat) :
    charsOf (code :: codes) = charOf code :: charsOf codes := by
  cases codes with
  | nil => rfl
  | cons next rest => simp [charsOf, h]

/-- A code whose next one does not end a pair gives a character of its own. -/
theorem charsOf_cons_cons {code next : Nat} (h : (isLeading code && isTrailing next) = false)
    (rest : List Nat) : charsOf (code :: next :: rest) = charOf code :: charsOf (next :: rest) := by
  simp [charsOf, h]

/-- The code that a printed text begins with is that of its first character. -/
theorem exists_codesOf_cons (c : Char) (s : List Char) :
    ∃ code codes, codesOf (c :: s) = code :: codes ∧ (code = codeOf c ∨ code = c.toNat) := by
  cases s with
  | nil => exact ⟨_, _, rfl, Or.inl rfl⟩
  | cons d s =>
    rw [codesOf]
    split
    · exact ⟨_, _, rfl, Or.inr rfl⟩
    · exact ⟨_, _, rfl, Or.inl rfl⟩

/-- Characters that are no split pair have no codes of a pair. -/
theorem not_pair_codes {c d : Char} (h : ¬ Text.isSplitPair c d = true) {code : Nat}
    (hcode : code = codeOf d ∨ code = d.toNat) :
    (isLeading (codeOf c) && isTrailing code) = false := by
  have hc := not_isSurrogate_toNat c
  have hd := not_isSurrogate_toNat d
  rcases hcode with rfl | rfl
  · -- only two halves could make a pair, and `isSplitPair` is about just these
    unfold codeOf
    unfold Text.isSplitPair at h
    cases hhc : Text.halfOf? c with
    | none => simp [hc.1]
    | some first =>
      cases hhd : Text.halfOf? d with
      | none => simp [hd.2]
      | some second =>
        have hfirst := halfOf?_eq_some hhc
        have hsecond := halfOf?_eq_some hhd
        simp only [hhc, hhd, Bool.and_eq_true, decide_eq_true_eq] at h
        simp only [isLeading, isTrailing, Bool.and_eq_false_iff, decide_eq_false_iff_not]
        omega
  · simp [hd.2]

/-- The characters of the codes of a text are this text. -/
theorem charsOf_codesOf (s : List Char) : charsOf (codesOf s) = s := by
  fun_induction codesOf s with
  | case1 => rfl
  | case2 c => exact congrArg (· :: []) (charOf_codeOf c)
  | case3 c d s hpair ih =>
    -- both are printed as they are, and no character is half of a pair
    rw [charsOf_cons (not_isSurrogate_toNat c).1, charsOf_cons (not_isSurrogate_toNat d).1, ih,
      charOf_toNat, charOf_toNat]
  | case4 c d s hpair ih =>
    obtain ⟨code, codes, hcodes, hcode⟩ := exists_codesOf_cons d s
    rw [hcodes, charsOf_cons_cons (not_pair_codes hpair hcode), ← hcodes, ih, charOf_codeOf]

/-! ### Escapes -/

/-- Four digits spell the number that they were written for. -/
theorem hexCode?_hexDigits {n : Nat} (hn : n < 0x10000) :
    ∃ a b c d, Text.hexDigits 4 n = [a, b, c, d] ∧ hexCode? a b c d = some n := by
  refine ⟨_, _, _, _, rfl, ?_⟩
  simp only [hexCode?, List.mapM_cons, List.mapM_nil]
  rw [Text.hexValue?_hexDigit (Nat.mod_lt _ (by decide)),
    Text.hexValue?_hexDigit (Nat.mod_lt _ (by decide)),
    Text.hexValue?_hexDigit (Nat.mod_lt _ (by decide)),
    Text.hexValue?_hexDigit (Nat.mod_lt _ (by decide))]
  simp
  omega

variable {rest tail : List Char} {codes : List Nat}

/-- An escape of four digits gives the code that it was written for. -/
theorem stringCodes?_hexDigits {n : Nat} (hn : n < 0x10000)
    (hrest : stringCodes? rest = some (codes, tail)) :
    stringCodes? ('\\' :: 'u' :: Text.hexDigits 4 n ++ rest) = some (n :: codes, tail) := by
  obtain ⟨a, b, c, d, hdigits, hcode⟩ := hexCode?_hexDigits hn
  rw [hdigits]
  simp [stringCodes?, hcode, hrest]

/-- A character that needs no escape gives its own code. -/
theorem stringCodes?_cons {c : Char} (hquote : c ≠ '"') (hslash : c ≠ '\\')
    (hcontrol : ¬ c.toNat < 0x20) (hrest : stringCodes? rest = some (codes, tail)) :
    stringCodes? (c :: rest) = some (c.toNat :: codes, tail) := by
  rw [stringCodes?]
  · simp [hcontrol, hslash, hrest]
  · exact hquote
  · exact fun _ _ _ _ _ h => absurd h hslash
  · exact fun _ _ h => absurd h hslash

/-- An escape by a letter gives the code that the letter stands for. -/
theorem stringCodes?_letter {c : Char} {code : Nat} (hc : escapeCode? c = some code)
    (hrest : stringCodes? rest = some (codes, tail)) :
    stringCodes? ('\\' :: c :: rest) = some (code :: codes, tail) := by
  rw [stringCodes?]
  · simp [hc, hrest]
  · rintro _ _ _ _ _ rfl
    simp [escapeCode?] at hc

/-- What is printed for a character gives its code. -/
theorem stringCodes?_escape (c : Char) (hrest : stringCodes? rest = some (codes, tail)) :
    stringCodes? (escape c ++ rest) = some (codeOf c :: codes, tail) := by
  -- none of the characters with an escape of their own stands for half of a pair
  have small : ∀ {n : Nat}, c.toNat = n → n < 0x70000 → codeOf c = n := by
    intro n hn hlt
    have hhalf : Text.halfOf? c = none := by
      rw [Text.halfOf?, if_neg (by omega)]
    simp [codeOf, hhalf, hn]
  have letter : ∀ {l : Char}, escapeCode? l = some (codeOf c) →
      stringCodes? (['\\', l] ++ rest) = some (codeOf c :: codes, tail) :=
    fun hl => stringCodes?_letter hl hrest
  unfold escape
  -- first the seven characters that are escaped by a letter or by themselves
  split
  · rename_i h; subst h; exact letter rfl
  split
  · rename_i h; subst h; exact letter rfl
  split
  · rename_i h; subst h; exact letter rfl
  split
  · rename_i h; subst h; exact letter rfl
  split
  · rename_i h; subst h; exact letter rfl
  split
  · rename_i h; subst h; exact letter rfl
  split
  · rename_i h; subst h; exact letter rfl
  rename_i hquote hslash _ _ _ _ _
  split
  · rename_i hcontrol
    rw [small rfl (by omega)]
    exact stringCodes?_hexDigits (by omega) hrest
  · rename_i hcontrol
    cases hhalf : Text.halfOf? c with
    | some unit =>
      have hunit := halfOf?_eq_some hhalf
      have hcode : codeOf c = unit := by simp [codeOf, hhalf]
      rw [hcode]
      exact stringCodes?_hexDigits (by omega) hrest
    | none =>
      have hcode : codeOf c = c.toNat := by simp [codeOf, hhalf]
      rw [hcode]
      exact stringCodes?_cons hquote hslash hcontrol hrest

/-! ### Whole strings -/

/-- A character that stands for half of a pair needs no escape. -/
theorem plain_of_half {c : Char} {unit : Nat} (h : Text.halfOf? c = some unit) :
    c ≠ '"' ∧ c ≠ '\\' ∧ ¬ c.toNat < 0x20 := by
  have hc := halfOf?_eq_some h
  refine ⟨?_, ?_, by omega⟩
  · rintro rfl
    simp at hc
    omega
  · rintro rfl
    simp at hc
    omega

/-- Both characters of a split pair stand for halves. -/
theorem halves_of_isSplitPair {c d : Char} (h : Text.isSplitPair c d = true) :
    ∃ first second, Text.halfOf? c = some first ∧ Text.halfOf? d = some second := by
  unfold Text.isSplitPair at h
  split at h
  · rename_i first second hc hd
    exact ⟨first, second, hc, hd⟩
  · simp at h

/-- What is printed for a text gives its codes. -/
theorem stringCodes?_escapeAll (s tail : List Char) :
    stringCodes? (escapeAll s ++ '"' :: tail) = some (codesOf s, tail) := by
  fun_induction escapeAll s with
  | case1 => rfl
  | case2 c => exact stringCodes?_escape c rfl
  | case3 c d s hpair ih =>
    obtain ⟨first, second, hc, hd⟩ := halves_of_isSplitPair hpair
    obtain ⟨hcquote, hcslash, hccontrol⟩ := plain_of_half hc
    obtain ⟨hdquote, hdslash, hdcontrol⟩ := plain_of_half hd
    rw [codesOf, if_pos hpair]
    exact stringCodes?_cons hcquote hcslash hccontrol
      (stringCodes?_cons hdquote hdslash hdcontrol ih)
  | case4 c d s hpair ih =>
    rw [codesOf, if_neg hpair, List.append_assoc]
    exact stringCodes?_escape c ih

/-- **Round trip of strings.** A printed text is read as this text, up to its closing quote. -/
theorem readString?_quote (s tail : List Char) :
    readString? (escapeAll s ++ '"' :: tail) = some (String.ofList s, tail) := by
  simp [readString?, stringCodes?_escapeAll, charsOf_codesOf]

end ImageBuild.Json
