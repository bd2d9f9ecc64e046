import ImageBuild.Text.Base64
import Mathlib.Data.List.Forall2
import Mathlib.Data.List.TakeWhile

namespace ImageBuild.Text.Base64

/-!
# Base64 — what is written reads back to the same bytes

A written text is the digits of the six-bit values of its bytes, followed by the padding that the
number of bytes asks for (`encode_eq`).  Reading takes the values from the digits and the bytes from
the values, so it gives back what was written (`decode_encode`).  It does not see in which alphabet
the digits are, nor how much of the padding is there (`Respells.decode_eq`).  What is read at all are
digits with at most two signs of padding behind them (`isWellFormed_iff_hasForm`).
-/

/-- The six-bit values of a byte sequence. -/
def sextets : List UInt8 → List Nat
  | [] => []
  | [a] => [a.toNat / 4, a.toNat % 4 * 16]
  | [a, b] =>
    let n := a.toNat * 256 + b.toNat
    [n / 1024, n / 16 % 64, n % 16 * 4]
  | a :: b :: c :: rest =>
    let n := a.toNat * 65536 + b.toNat * 256 + c.toNat
    n / 262144 :: n / 4096 % 64 :: n / 64 % 64 :: n % 64 :: sextets rest

/-- The padding that a number of bytes asks for. -/
def padding (bytes : Nat) : List Char := List.replicate ((3 - bytes % 3) % 3) '='

/-! ### Writing -/

/-- The values have six bits. -/
theorem lt_of_mem_sextets {bs : List UInt8} {n : Nat} (hn : n ∈ sextets bs) : n < 64 := by
  fun_induction sextets bs with
  | case1 => simp at hn
  | case2 a =>
    have := a.toNat_lt
    simp only [List.mem_cons, List.not_mem_nil, or_false] at hn
    omega
  | case3 a b m =>
    have := a.toNat_lt
    have := b.toNat_lt
    simp only [List.mem_cons, List.not_mem_nil, or_false] at hn
    omega
  | case4 a b c rest m ih =>
    have := a.toNat_lt
    have := b.toNat_lt
    have := c.toNat_lt
    simp only [List.mem_cons] at hn
    rcases hn with hn | hn | hn | hn | hn
    · omega
    · omega
    · omega
    · omega
    · exact ih hn

/-- Three bytes more ask for the same padding. -/
theorem padding_add_three (bytes : Nat) : padding (bytes + 3) = padding bytes := by
  simp [padding]

/-- A written text is the digits of the values, and the padding. -/
theorem encode_eq (bs : List UInt8) : encode bs = (sextets bs).map digit ++ padding bs.length := by
  fun_induction encode bs with
  | case1 => rfl
  | case2 a => rfl
  | case3 a b n => rfl
  | case4 a b c rest n ih =>
    rw [ih, List.length_cons, List.length_cons, List.length_cons, padding_add_three]
    rfl

/-- A digit of the URL-safe alphabet. -/
def IsUrlSafe (c : Char) : Prop :=
  'A' ≤ c ∧ c ≤ 'Z' ∨ 'a' ≤ c ∧ c ≤ 'z' ∨ '0' ≤ c ∧ c ≤ '9' ∨ c = '-' ∨ c = '_'

instance (c : Char) : Decidable (IsUrlSafe c) := inferInstanceAs (Decidable (_ ∨ _))

/-- Digits are written in the URL-safe alphabet. -/
theorem isUrlSafe_digit {n : Nat} (hn : n < 64) : IsUrlSafe (digit n) := by
  have all : ∀ k : Fin 64, IsUrlSafe (digit k) := by decide
  exact all ⟨n, hn⟩

/-- Digits and padding fill up groups of four. -/
theorem length_sextets_add (bs : List UInt8) :
    ((sextets bs).length + (3 - bs.length % 3) % 3) % 4 = 0 := by
  fun_induction sextets bs with
  | case1 => rfl
  | case2 a => simp
  | case3 a b n => simp
  | case4 a b c rest n ih =>
    simp only [List.length_cons]
    omega

/-- Bytes that fill up groups of four are written on their own. -/
theorem encode_append {bs : List UInt8} (h : bs.length % 3 = 0) (rest : List UInt8) :
    encode (bs ++ rest) = encode bs ++ encode rest := by
  fun_induction encode bs with
  | case1 => rfl
  | case2 a => simp at h
  | case3 a b n => simp at h
  | case4 a b c bs n ih =>
    have hmore : bs.length % 3 = 0 := by
      simp only [List.length_cons] at h
      omega
    rw [List.cons_append, List.cons_append, List.cons_append, encode, ih hmore]
    rfl

/-- The digits and the padding of some bytes are as many as four for every three of them, the last
    group filled up. -/
theorem length_encode (bs : List UInt8) : (encode bs).length = 4 * ((bs.length + 2) / 3) := by
  fun_induction encode bs with
  | case1 => rfl
  | case2 a => simp
  | case3 a b n => simp
  | case4 a b c rest n ih =>
    simp only [List.length_cons, ih]
    omega

/-- Written texts are ASCII. -/
theorem toNat_lt_of_mem_encode {bs : List UInt8} {c : Char} (hc : c ∈ encode bs) :
    c.toNat < 0x80 := by
  rw [encode_eq, List.mem_append, padding, List.mem_replicate] at hc
  rcases hc with hc | ⟨-, rfl⟩
  · have all : ∀ k : Fin 64, (digit k).toNat < 0x80 := by decide
    obtain ⟨n, hn, rfl⟩ := List.mem_map.1 hc
    exact all ⟨n, lt_of_mem_sextets hn⟩
  · decide

/-- **The written form.** A text is digits of the URL-safe alphabet and the padding that the number
    of its bytes asks for, four characters in every group. -/
theorem form_encode (bs : List UInt8) :
    ∃ digits, encode bs = digits ++ List.replicate ((3 - bs.length % 3) % 3) '=' ∧
      (∀ c ∈ digits, IsUrlSafe c) ∧ (encode bs).length % 4 = 0 := by
  refine ⟨(sextets bs).map digit, encode_eq bs, fun c hc => ?_, ?_⟩
  · obtain ⟨n, hn, rfl⟩ := List.mem_map.1 hc
    exact isUrlSafe_digit (lt_of_mem_sextets hn)
  · rw [encode_eq, List.length_append, List.length_map, padding, List.length_replicate]
    exact length_sextets_add bs

/-! ### Reading -/

/-- A digit has the value that it was written for, and is no padding. -/
theorem value?_digit {n : Nat} (hn : n < 64) : value? (digit n) = some n ∧ digit n ≠ '=' := by
  have all : ∀ k : Fin 64, value? (digit k) = some k.val ∧ digit k ≠ '=' := by decide
  exact all ⟨n, hn⟩

/-- The values of written digits are those that they were written for. -/
theorem filterMap_value?_digits {ns : List Nat} (hns : ∀ n ∈ ns, n < 64) :
    (ns.map digit).filterMap value? = ns := by
  induction ns with
  | nil => rfl
  | cons n ns ih =>
    rw [List.map_cons, List.filterMap_cons, (value?_digit (hns n (by simp))).1,
      ih fun k hk => hns k (by simp [hk])]

/-- The bytes of the values of some bytes are these bytes. -/
theorem bytesOf_sextets (bs : List UInt8) : bytesOf (sextets bs) = bs := by
  -- a byte is known by its number
  have same : ∀ {n : Nat} {a : UInt8}, n = a.toNat → n.toUInt8 = a := by
    rintro n a rfl
    simp
  fun_induction sextets bs with
  | case1 => rfl
  | case2 a =>
    have := a.toNat_lt
    simp only [bytesOf, List.cons.injEq, and_true]
    exact same (by omega)
  | case3 a b n =>
    have := a.toNat_lt
    have := b.toNat_lt
    simp only [bytesOf, List.cons.injEq, and_true]
    exact ⟨same (by omega), same (by omega)⟩
  | case4 a b c rest n ih =>
    have := a.toNat_lt
    have := b.toNat_lt
    have := c.toNat_lt
    simp only [bytesOf, ih, List.cons.injEq, and_true]
    exact ⟨same (by omega), same (by omega), same (by omega)⟩

/-- Padding holds no digits. -/
theorem takeWhile_padding (bytes : Nat) : (padding bytes).takeWhile (· != '=') = [] := by
  unfold padding
  cases (3 - bytes % 3) % 3 <;> simp [List.replicate_succ]

/-- Digits are read up to the padding. -/
theorem takeWhile_encode (bs : List UInt8) :
    (encode bs).takeWhile (· != '=') = (sextets bs).map digit := by
  have hdigits : ∀ c ∈ (sextets bs).map digit, (c != '=') = true := by
    intro c hc
    obtain ⟨n, hn, rfl⟩ := List.mem_map.1 hc
    simpa using (value?_digit (lt_of_mem_sextets hn)).2
  rw [encode_eq, List.takeWhile_append_of_pos hdigits, takeWhile_padding, List.append_nil]

/-- **Round trip.** A written text reads back to its bytes. -/
theorem decode_encode (bs : List UInt8) : decode (encode bs) = bs := by
  rw [decode, takeWhile_encode, filterMap_value?_digits fun n hn => lt_of_mem_sextets hn,
    bytesOf_sextets]

/-! ### Form -/

/-- A digit of either alphabet. -/
def IsDigit (c : Char) : Prop := IsUrlSafe c ∨ c = '+' ∨ c = '/'

instance (c : Char) : Decidable (IsDigit c) := inferInstanceAs (Decidable (_ ∨ _))

/-- A text has the form of base64: digits of either alphabet, mixed freely, and at most two signs of
    padding behind them. -/
def HasForm (s : List Char) : Prop :=
  ∃ digits padding, s = digits ++ List.replicate padding '=' ∧ padding ≤ 2 ∧ ∀ c ∈ digits, IsDigit c

/-- The characters that have a value are the digits. -/
theorem isSome_value?_iff (c : Char) : (value? c).isSome = true ↔ IsDigit c := by
  unfold value? IsDigit IsUrlSafe
  split
  · simp_all
  split
  · simp_all
  split
  · simp_all
  split
  · rename_i hspecial
    rcases hspecial with rfl | rfl <;> simp
  split
  · rename_i hspecial
    rcases hspecial with rfl | rfl <;> simp
  · simp_all

/-- A text is well formed when what stands behind its digits is at most two signs of padding. -/
theorem isWellFormed_iff (s : List Char) : isWellFormed s = true ↔
    ∃ n ≤ 2, (s.dropWhile fun c => (value? c).isSome) = List.replicate n '=' := by
  rw [isWellFormed, Bool.or_eq_true, Bool.or_eq_true, beq_iff_eq, beq_iff_eq, beq_iff_eq]
  constructor
  · rintro ((h | h) | h)
    · exact ⟨0, by omega, h⟩
    · exact ⟨1, by omega, h⟩
    · exact ⟨2, by omega, h⟩
  · rintro ⟨n, hn, h⟩
    match n, hn with
    | 0, _ => exact .inl (.inl h)
    | 1, _ => exact .inl (.inr h)
    | 2, _ => exact .inr h

/-- The well-formed texts are those that have the form of base64. -/
theorem isWellFormed_iff_hasForm (s : List Char) : isWellFormed s = true ↔ HasForm s := by
  have hequals : (value? '=').isSome = false := by decide
  rw [isWellFormed_iff]
  constructor
  · rintro ⟨n, hn, hpadding⟩
    refine ⟨s.takeWhile fun c => (value? c).isSome, n, ?_, hn, fun c hc => ?_⟩
    · rw [← hpadding, List.takeWhile_append_dropWhile]
    · have hall := List.all_takeWhile (p := fun c => (value? c).isSome) (l := s)
      exact (isSome_value?_iff c).1 (List.all_eq_true.1 hall c hc)
  · rintro ⟨digits, n, rfl, hn, hdigits⟩
    refine ⟨n, hn, ?_⟩
    -- a sign of padding has no value, so that leaving out the digits stops at the first one
    rw [List.dropWhile_append_of_pos fun c hc => (isSome_value?_iff c).2 (hdigits c hc)]
    cases n with
    | zero => rfl
    | succ n => rw [List.replicate_succ, List.dropWhile_cons, if_neg (by simp [hequals])]

/-- What is written has the form of base64. -/
theorem isWellFormed_encode (bs : List UInt8) : isWellFormed (encode bs) = true := by
  obtain ⟨digits, hform, hdigits, -⟩ := form_encode bs
  rw [isWellFormed_iff_hasForm]
  exact ⟨digits, _, hform, by omega, fun c hc => .inl (hdigits c hc)⟩

/-! ### Other spellings -/

/-- The same character, or the same digit in the alphabet that is not URL-safe. -/
def IsSpelling (c d : Char) : Prop := d = c ∨ c = '-' ∧ d = '+' ∨ c = '_' ∧ d = '/'

instance (c d : Char) : Decidable (IsSpelling c d) := inferInstanceAs (Decidable (_ ∨ _))

/-- A text is spelled otherwise: some of its last padding is left out, and some of its digits are in
    the alphabet that is not URL-safe. -/
def Respells (s t : List Char) : Prop :=
  ∃ kept dropped, s = kept ++ List.replicate dropped '=' ∧ List.Forall₂ IsSpelling kept t

/-- A digit has its value in both alphabets. -/
theorem IsSpelling.value?_eq {c d : Char} (h : IsSpelling c d) : value? d = value? c := by
  rcases h with rfl | ⟨rfl, rfl⟩ | ⟨rfl, rfl⟩
  · rfl
  · decide
  · decide

/-- Padding is not spelled otherwise. -/
theorem IsSpelling.bne_equals {c d : Char} (h : IsSpelling c d) : (d != '=') = (c != '=') := by
  rcases h with rfl | ⟨rfl, rfl⟩ | ⟨rfl, rfl⟩
  · rfl
  · decide
  · decide

/-- A text without digits is not spelled otherwise. -/
theorem eq_of_forall₂_isSpelling {s t : List Char} (h : List.Forall₂ IsSpelling s t)
    (hs : ∀ c ∈ s, c = '=') : t = s := by
  induction h with
  | nil => rfl
  | cons hcd _ ih =>
    rw [List.forall_mem_cons] at hs
    obtain ⟨rfl, hs⟩ := hs
    rcases hcd with rfl | ⟨hdash, -⟩ | ⟨hbar, -⟩
    · rw [ih hs]
    · exact absurd hdash (by decide)
    · exact absurd hbar (by decide)

/-- The values up to the padding are those of every other spelling. -/
theorem filterMap_takeWhile_eq {s t : List Char} (h : List.Forall₂ IsSpelling s t) :
    (t.takeWhile (· != '=')).filterMap value? = (s.takeWhile (· != '=')).filterMap value? := by
  induction h with
  | nil => rfl
  | @cons c d s t hcd _ ih =>
    rw [List.takeWhile_cons, List.takeWhile_cons, hcd.bne_equals]
    split
    · rw [List.filterMap_cons, List.filterMap_cons, hcd.value?_eq, ih]
    · rfl

/-- What stands behind the digits is a spelling of what stands behind them in another spelling. -/
theorem forall₂_dropWhile {s t : List Char} (h : List.Forall₂ IsSpelling s t) :
    List.Forall₂ IsSpelling (s.dropWhile fun c => (value? c).isSome)
      (t.dropWhile fun c => (value? c).isSome) := by
  induction h with
  | nil => exact .nil
  | @cons c d s t hcd hst ih =>
    rw [List.dropWhile_cons, List.dropWhile_cons, hcd.value?_eq]
    split
    · exact ih
    · exact .cons hcd hst

/-- Every spelling of a well-formed text is well formed. -/
theorem Respells.isWellFormed {s t : List Char} (h : Respells s t) (hs : isWellFormed s = true) :
    isWellFormed t = true := by
  obtain ⟨kept, dropped, rfl, hspell⟩ := h
  obtain ⟨n, hn, hpadding⟩ := (isWellFormed_iff _).1 hs
  -- what is kept has the rest of the padding behind its digits, and that is spelled in one way
  obtain ⟨m, hm, hkept⟩ : ∃ m ≤ 2,
      (kept.dropWhile fun c => (value? c).isSome) = List.replicate m '=' := by
    rw [List.dropWhile_append] at hpadding
    split at hpadding
    · rename_i hempty
      exact ⟨0, by omega, List.isEmpty_iff.1 hempty⟩
    · obtain ⟨hlength, hrest, -⟩ := List.append_eq_replicate_iff.1 hpadding
      exact ⟨_, by omega, hrest⟩
  have htail := eq_of_forall₂_isSpelling (forall₂_dropWhile hspell) (by
    rw [hkept]
    exact fun c hc => List.eq_of_mem_replicate hc)
  exact (isWellFormed_iff t).2 ⟨m, hm, htail.trans hkept⟩

/-- **Spellings.** Every spelling of a text is read as the same bytes. -/
theorem Respells.decode_eq {s t : List Char} (h : Respells s t) : decode t = decode s := by
  obtain ⟨kept, dropped, rfl, hspell⟩ := h
  have hfront : (kept ++ List.replicate dropped '=').takeWhile (· != '=') =
      kept.takeWhile (· != '=') := by
    rw [List.takeWhile_append]
    split
    · rename_i hlength
      rw [List.takeWhile_replicate, if_neg (by decide), List.append_nil,
        (List.takeWhile_prefix _).eq_of_length hlength]
    · rfl
  rw [decode, decode, hfront, filterMap_takeWhile_eq hspell]

end ImageBuild.Text.Base64
