import ImageBuild.Text.Utf8

namespace ImageBuild.Text.Utf8

/-!
# UTF-8 — the bytes of a text read back to the text

The reader goes through the bytes of one character with one `start` and up to three `extend`; every
length has one lemma, and `decodeFrom_encodeChar` puts them together.
-/

/-- A number below 256 is the number of its byte. -/
theorem toNat_toUInt8 {n : Nat} (hn : n < 256) : n.toUInt8.toNat = n := by
  simp only [Nat.toUInt8, UInt8.toNat_ofNat']
  omega

/-- The number of a character is below the surrogates, or above them and below the end. -/
theorem toNat_valid (c : Char) :
    c.toNat < 0xD800 ∨ (0xDFFF < c.toNat ∧ c.toNat < 0x110000) := c.valid

/-- A byte that continues a sequence is read without a character, unless it is the last one. -/
theorem extend_of_mem {p : Pending} {b : Nat} (hlow : p.low ≤ b) (hhigh : b ≤ p.high) :
    extend p b =
      if p.missing = 1 then ([Char.ofNat (p.code * 0x40 + (b - 0x80))], none)
      else ([], some { missing := p.missing - 1, code := p.code * 0x40 + (b - 0x80) }) := by
  simp [extend, hlow, hhigh]

/-- The last byte of a sequence gives its character. -/
theorem decodeFrom_last {p : Pending} {n : Nat} (hmissing : p.missing = 1) (hn : n < 256)
    (hlow : p.low ≤ n) (hhigh : n ≤ p.high) (bs : List UInt8) :
    decodeFrom (some p) (n.toUInt8 :: bs) =
      Char.ofNat (p.code * 0x40 + (n - 0x80)) :: decodeFrom none bs := by
  rw [decodeFrom, toNat_toUInt8 hn, extend_of_mem hlow hhigh, if_pos hmissing]
  rfl

/-- A byte before the last one is kept for later. -/
theorem decodeFrom_inner {p : Pending} {n : Nat} (hmissing : p.missing ≠ 1) (hn : n < 256)
    (hlow : p.low ≤ n) (hhigh : n ≤ p.high) (bs : List UInt8) :
    decodeFrom (some p) (n.toUInt8 :: bs) =
      decodeFrom (some { missing := p.missing - 1, code := p.code * 0x40 + (n - 0x80) }) bs := by
  rw [decodeFrom, toNat_toUInt8 hn, extend_of_mem hlow hhigh, if_neg hmissing]
  rfl

/-- A byte that begins a sequence is kept for later. -/
theorem decodeFrom_start {n : Nat} {p : Pending} (hn : n < 256) (hstart : start n = ([], some p))
    (bs : List UInt8) : decodeFrom none (n.toUInt8 :: bs) = decodeFrom (some p) bs := by
  rw [decodeFrom, toNat_toUInt8 hn, hstart]
  rfl

/-! ### The four lengths -/

variable (c : Char) (bs : List UInt8)

/-- A character of one byte. -/
theorem decodeFrom_encodeChar_one (h : c.toNat < 0x80) :
    decodeFrom none (encodeChar c ++ bs) = c :: decodeFrom none bs := by
  rw [encodeChar, if_pos h, List.singleton_append, decodeFrom, toNat_toUInt8 (by omega), start,
    if_pos h]
  simp

/-- A character of two bytes. -/
theorem decodeFrom_encodeChar_two (h : 0x80 ≤ c.toNat) (h' : c.toNat < 0x800) :
    decodeFrom none (encodeChar c ++ bs) = c :: decodeFrom none bs := by
  have hstart : start (0xC0 + c.toNat / 0x40) =
      ([], some { missing := 1, code := c.toNat / 0x40 }) := by
    rw [start, if_neg (by omega), if_pos (by omega)]
    simp
  rw [encodeChar, if_neg (by omega), if_pos h', List.cons_append, List.singleton_append,
    decodeFrom_start (by omega) hstart,
    decodeFrom_last rfl (by omega) (by simp) (by simp only; omega)]
  have hcode : c.toNat / 0x40 * 0x40 + (0x80 + c.toNat % 0x40 - 0x80) = c.toNat := by omega
  rw [hcode, Char.ofNat_toNat]

/-- The range of the second of three bytes, by the first one. -/
theorem start_three (h : 0x800 ≤ c.toNat) (h' : c.toNat < 0x10000) :
    ∃ p, start (0xE0 + c.toNat / 0x1000) = ([], some p) ∧ p.missing = 2 ∧
      p.code = c.toNat / 0x1000 ∧ p.low ≤ 0x80 + c.toNat / 0x40 % 0x40 ∧
      0x80 + c.toNat / 0x40 % 0x40 ≤ p.high := by
  have hvalid := toNat_valid c
  rw [start, if_neg (by omega), if_neg (by omega)]
  -- after the first byte 0xE0 shorter forms are left out, after 0xED the surrogates
  by_cases hfirst : c.toNat / 0x1000 = 0
  · rw [if_pos (by omega)]
    exact ⟨_, rfl, rfl, by simp only; omega, by simp only; omega, by simp only; omega⟩
  · rw [if_neg (by omega)]
    by_cases hsurrogate : c.toNat / 0x1000 = 0xD
    · rw [if_pos (by omega)]
      exact ⟨_, rfl, rfl, by simp only; omega, by simp, by simp only; omega⟩
    · rw [if_neg (by omega), if_pos (by omega)]
      exact ⟨_, rfl, rfl, by simp, by simp, by simp only; omega⟩

/-- A character of three bytes. -/
theorem decodeFrom_encodeChar_three (h : 0x800 ≤ c.toNat) (h' : c.toNat < 0x10000) :
    decodeFrom none (encodeChar c ++ bs) = c :: decodeFrom none bs := by
  obtain ⟨p, hstart, hmissing, hcode, hlow, hhigh⟩ := start_three c h h'
  rw [encodeChar, if_neg (by omega), if_neg (by omega), if_pos h', List.cons_append,
    List.cons_append, List.singleton_append, decodeFrom_start (by omega) hstart,
    decodeFrom_inner (by omega) (by omega) hlow hhigh,
    decodeFrom_last (by simp [hmissing]) (by omega) (by simp) (by simp only; omega), hcode]
  have hnumber : (c.toNat / 0x1000 * 0x40 + (0x80 + c.toNat / 0x40 % 0x40 - 0x80)) * 0x40 +
      (0x80 + c.toNat % 0x40 - 0x80) = c.toNat := by omega
  rw [hnumber, Char.ofNat_toNat]

/-- The range of the second of four bytes, by the first one. -/
theorem start_four (h : 0x10000 ≤ c.toNat) :
    ∃ p, start (0xF0 + c.toNat / 0x40000) = ([], some p) ∧ p.missing = 3 ∧
      p.code = c.toNat / 0x40000 ∧ p.low ≤ 0x80 + c.toNat / 0x1000 % 0x40 ∧
      0x80 + c.toNat / 0x1000 % 0x40 ≤ p.high := by
  have hvalid := toNat_valid c
  rw [start, if_neg (by omega), if_neg (by omega), if_neg (by omega), if_neg (by omega),
    if_neg (by omega)]
  -- after the first byte 0xF0 shorter forms are left out, after 0xF4 what is no character
  by_cases hfirst : c.toNat / 0x40000 = 0
  · rw [if_pos (by omega)]
    exact ⟨_, rfl, rfl, by simp only; omega, by simp only; omega, by simp only; omega⟩
  · rw [if_neg (by omega)]
    by_cases hlast : c.toNat / 0x40000 = 4
    · rw [if_pos (by omega)]
      exact ⟨_, rfl, rfl, by simp only; omega, by simp, by simp only; omega⟩
    · rw [if_neg (by omega), if_pos (by omega)]
      exact ⟨_, rfl, rfl, by simp, by simp, by simp only; omega⟩

/-- A character of four bytes. -/
theorem decodeFrom_encodeChar_four (h : 0x10000 ≤ c.toNat) :
    decodeFrom none (encodeChar c ++ bs) = c :: decodeFrom none bs := by
  have hvalid := toNat_valid c
  obtain ⟨p, hstart, hmissing, hcode, hlow, hhigh⟩ := start_four c h
  rw [encodeChar, if_neg (by omega), if_neg (by omega), if_neg (by omega), List.cons_append,
    List.cons_append, List.cons_append, List.singleton_append, decodeFrom_start (by omega) hstart,
    decodeFrom_inner (by omega) (by omega) hlow hhigh,
    decodeFrom_inner (by simp [hmissing]) (by omega) (by simp) (by simp only; omega),
    decodeFrom_last (by simp [hmissing]) (by omega) (by simp) (by simp only; omega), hcode]
  have hnumber : ((c.toNat / 0x40000 * 0x40 + (0x80 + c.toNat / 0x1000 % 0x40 - 0x80)) * 0x40 +
      (0x80 + c.toNat / 0x40 % 0x40 - 0x80)) * 0x40 + (0x80 + c.toNat % 0x40 - 0x80) =
      c.toNat := by omega
  rw [hnumber, Char.ofNat_toNat]

/-! ### Texts -/

/-- The bytes of a character are read as this character. -/
theorem decodeFrom_encodeChar :
    decodeFrom none (encodeChar c ++ bs) = c :: decodeFrom none bs := by
  by_cases h₁ : c.toNat < 0x80
  · exact decodeFrom_encodeChar_one c bs h₁
  by_cases h₂ : c.toNat < 0x800
  · exact decodeFrom_encodeChar_two c bs (by omega) h₂
  by_cases h₃ : c.toNat < 0x10000
  · exact decodeFrom_encodeChar_three c bs (by omega) h₃
  · exact decodeFrom_encodeChar_four c bs (by omega)

/-- **Round trip.** The bytes of a text are read as this text. -/
theorem decode_encode (s : List Char) : decode (encode s) = s := by
  induction s with
  | nil => rfl
  | cons c s ih =>
    rw [decode, encode, List.flatMap_cons, decodeFrom_encodeChar]
    exact congrArg (c :: ·) ih

/-- A text has no more characters than bytes. -/
theorem length_le_length_encode (s : List Char) : s.length ≤ (encode s).length := by
  induction s with
  | nil => simp [encode]
  | cons c s ih =>
    have hpos : 1 ≤ (encodeChar c).length := by
      simp only [encodeChar]
      repeat' split
      all_goals simp
    rw [encode, List.flatMap_cons, List.length_append, List.length_cons, ← encode]
    omega

end ImageBuild.Text.Utf8
