import ImageBuild.Proofs.Text.Utf8

namespace ImageBuild.Text.Utf8

/-!
# Substitution — what the reader of bytes puts in place of broken ones

Between two bytes the reader holds the bytes of a character that has begun (`Begun`, `Held`).  One
more byte either gives characters that are written with just the bytes taken, or a replacement
character (`exists_step`).  So by induction a text without replacement characters has the bytes that
it was read from (`encode_decode_of_notMem`), and bytes that are not UTF-8 always leave one
(`replacement_mem_decode`).  A byte below 0x80 is never part of another character: the bytes on its
two sides are read each for itself (`decode_append_ascii`).
-/

/-- Bytes are UTF-8 when they are the bytes of a text. -/
def IsUtf8 (bs : List UInt8) : Prop := ∃ s, encode s = bs

/-- The reader holds some bytes of a character that has begun.  The code so far spells these bytes,
    and the range of the next byte leaves out shorter forms, surrogates and what is beyond the last
    character. -/
inductive Begun : List UInt8 → Pending → Prop
  | two {a : UInt8} {n : Nat} (ha : a.toNat = 0xC0 + n) (h : 2 ≤ n) (h' : n < 0x20) :
    Begun [a] { missing := 1, code := n }
  | three {a : UInt8} {n low high : Nat} (ha : a.toNat = 0xE0 + n) (h : n < 0x10)
    (hlow : 0x80 ≤ low) (hzero : n = 0 → 0xA0 ≤ low)
    (hhigh : high ≤ 0xBF) (hsurrogate : n = 0xD → high ≤ 0x9F) :
    Begun [a] { missing := 2, code := n, low := low, high := high }
  | threeLast {a b : UInt8} {n : Nat} (ha : a.toNat = 0xE0 + n / 0x40)
    (hb : b.toNat = 0x80 + n % 0x40) (h : 0x20 ≤ n) (h' : n < 0x400)
    (hsurrogate : n < 0x360 ∨ 0x37F < n) :
    Begun [a, b] { missing := 1, code := n }
  | four {a : UInt8} {n low high : Nat} (ha : a.toNat = 0xF0 + n) (h : n ≤ 4)
    (hlow : 0x80 ≤ low) (hzero : n = 0 → 0x90 ≤ low)
    (hhigh : high ≤ 0xBF) (hlast : n = 4 → high ≤ 0x8F) :
    Begun [a] { missing := 3, code := n, low := low, high := high }
  | fourInner {a b : UInt8} {n : Nat} (ha : a.toNat = 0xF0 + n / 0x40)
    (hb : b.toNat = 0x80 + n % 0x40) (h : 0x10 ≤ n) (h' : n < 0x110) :
    Begun [a, b] { missing := 2, code := n }
  | fourLast {a b c : UInt8} {n : Nat} (ha : a.toNat = 0xF0 + n / 0x1000)
    (hb : b.toNat = 0x80 + n / 0x40 % 0x40) (hc : c.toNat = 0x80 + n % 0x40)
    (h : 0x400 ≤ n) (h' : n < 0x4400) :
    Begun [a, b, c] { missing := 1, code := n }

/-- What the reader holds between two bytes. -/
def Held : Option Pending → List UInt8 → Prop
  | none, held => held = []
  | some p, held => Begun held p

/-- At the start nothing is held. -/
theorem held_none : Held none [] := rfl

/-! ### One byte -/

/-- A byte is known by its number. -/
theorem toUInt8_eq {n : Nat} {b : UInt8} (h : n = b.toNat) : n.toUInt8 = b := by
  subst h
  simp

/-- The next byte of what has begun is not below 0x80. -/
theorem Begun.low_le {held : List UInt8} {p : Pending} (h : Begun held p) : 0x80 ≤ p.low := by
  cases h <;> simp_all

/-- What a byte does where a character may begin: it is a character, it is held, or it is
    replaced. -/
theorem start_cases (b : UInt8) :
    (b.toNat < 0x80 ∧ start b.toNat = ([Char.ofNat b.toNat], none)) ∨
      (∃ p, start b.toNat = ([], some p) ∧ Begun [b] p) ∨
      (0x80 ≤ b.toNat ∧ start b.toNat = ([replacement], none)) := by
  by_cases hascii : b.toNat < 0x80
  · exact .inl ⟨hascii, by rw [start, if_pos hascii]⟩
  refine .inr ?_
  unfold start
  rw [if_neg hascii]
  -- the first bytes of two, three and four, those with a narrower range each for itself
  split
  · exact .inl ⟨_, rfl, .two (by omega) (by omega) (by omega)⟩
  split
  · exact .inl ⟨_, rfl, .three (by omega) (by omega) (by omega) (by omega) (by omega) (by omega)⟩
  split
  · exact .inl ⟨_, rfl, .three (by omega) (by omega) (by omega) (by omega) (by omega) (by omega)⟩
  split
  · exact .inl ⟨_, rfl, .three (by omega) (by omega) (by omega) (by omega) (by omega) (by omega)⟩
  split
  · exact .inl ⟨_, rfl, .four (by omega) (by omega) (by omega) (by omega) (by omega) (by omega)⟩
  split
  · exact .inl ⟨_, rfl, .four (by omega) (by omega) (by omega) (by omega) (by omega) (by omega)⟩
  split
  · exact .inl ⟨_, rfl, .four (by omega) (by omega) (by omega) (by omega) (by omega) (by omega)⟩
  · exact .inr ⟨by omega, rfl⟩

/-- A byte in the range continues what has begun.  It is held as well, unless it is the last one. -/
theorem Begun.inner {held : List UInt8} {p : Pending} (h : Begun held p) {b : UInt8}
    (hlow : p.low ≤ b.toNat) (hhigh : b.toNat ≤ p.high) (hmissing : p.missing ≠ 1) :
    Begun (held ++ [b])
      { missing := p.missing - 1, code := p.code * 0x40 + (b.toNat - 0x80) } := by
  cases h with
  | two => simp at hmissing
  | threeLast => simp at hmissing
  | fourLast => simp at hmissing
  | three =>
    simp only at hlow hhigh ⊢
    exact .threeLast (by omega) (by omega) (by omega) (by omega) (by omega)
  | four =>
    simp only at hlow hhigh ⊢
    exact .fourInner (by omega) (by omega) (by omega) (by omega)
  | fourInner =>
    simp only at hlow hhigh ⊢
    exact .fourLast (by omega) (by omega) (by omega) (by omega) (by omega)

/-- The number of a character that is one. -/
theorem toNat_ofNat {n : Nat} (h : n < 0xD800 ∨ (0xDFFF < n ∧ n < 0x110000)) :
    (Char.ofNat n).toNat = n := by
  have hvalid : n.isValidChar := h
  rw [Char.ofNat, dif_pos hvalid]
  rfl

/-- The last byte completes a character beyond the first 0x80, which is written with the bytes held
    and this one. -/
theorem Begun.last {held : List UInt8} {p : Pending} (h : Begun held p) {b : UInt8}
    (hlow : p.low ≤ b.toNat) (hhigh : b.toNat ≤ p.high) (hmissing : p.missing = 1) :
    let c := Char.ofNat (p.code * 0x40 + (b.toNat - 0x80))
    encodeChar c = held ++ [b] ∧ 0x80 ≤ c.toNat := by
  cases h with
  | three => simp at hmissing
  | four => simp at hmissing
  | fourInner => simp at hmissing
  | @two a n ha =>
    simp only at hlow hhigh ⊢
    have hc : (Char.ofNat (n * 0x40 + (b.toNat - 0x80))).toNat = n * 0x40 + (b.toNat - 0x80) :=
      toNat_ofNat (by omega)
    refine ⟨?_, by omega⟩
    rw [encodeChar, hc, if_neg (by omega), if_pos (by omega), toUInt8_eq (b := a) (by omega),
      toUInt8_eq (b := b) (by omega)]
    rfl
  | @threeLast a a' n ha ha' =>
    simp only at hlow hhigh ⊢
    have hc : (Char.ofNat (n * 0x40 + (b.toNat - 0x80))).toNat = n * 0x40 + (b.toNat - 0x80) :=
      toNat_ofNat (by omega)
    refine ⟨?_, by omega⟩
    rw [encodeChar, hc, if_neg (by omega), if_neg (by omega), if_pos (by omega),
      toUInt8_eq (b := a) (by omega), toUInt8_eq (b := a') (by omega),
      toUInt8_eq (b := b) (by omega)]
    rfl
  | @fourLast a a' a'' n ha ha' ha'' =>
    simp only at hlow hhigh ⊢
    have hc : (Char.ofNat (n * 0x40 + (b.toNat - 0x80))).toNat = n * 0x40 + (b.toNat - 0x80) :=
      toNat_ofNat (by omega)
    refine ⟨?_, by omega⟩
    rw [encodeChar, hc, if_neg (by omega), if_neg (by omega), if_neg (by omega),
      toUInt8_eq (b := a) (by omega), toUInt8_eq (b := a') (by omega),
      toUInt8_eq (b := a'') (by omega), toUInt8_eq (b := b) (by omega)]
    rfl

/-- What one more byte gives, and what is held after it. -/
structure Step (held : List UInt8) (b : UInt8) (cs : List Char) (held' : List UInt8) : Prop where
  /-- Nothing is lost or added where nothing is replaced. -/
  kept : replacement ∈ cs ∨ encode cs ++ held' = held ++ [b]
  /-- A character below 0x80 is the byte itself. -/
  ascii : ∀ c ∈ cs, c.toNat < 0x80 → c.toNat = b.toNat

/-- A byte that may begin a character takes a step with nothing held before it. -/
theorem exists_step_start (b : UInt8) :
    ∃ cs next held', start b.toNat = (cs, next) ∧ Held next held' ∧ Step [] b cs held' := by
  have hreplacement : ¬ replacement.toNat < 0x80 := by decide
  rcases start_cases b with ⟨hascii, hstart⟩ | ⟨p, hstart, hbegun⟩ | ⟨-, hstart⟩
  · have hc : (Char.ofNat b.toNat).toNat = b.toNat := toNat_ofNat (by omega)
    refine ⟨_, none, [], hstart, rfl, .inr ?_, by simp [hc]⟩
    simp [encode, encodeChar, hc, hascii]
  · exact ⟨_, some p, [b], hstart, hbegun, .inr rfl, by simp⟩
  · exact ⟨_, none, [], hstart, rfl, .inl (by simp), by simp [hreplacement]⟩

/-- Every byte takes a step. -/
theorem exists_step {pending : Option Pending} {held : List UInt8} (h : Held pending held)
    (b : UInt8) : ∃ cs next held', (∀ bs, decodeFrom pending (b :: bs) = cs ++ decodeFrom next bs) ∧
      Held next held' ∧ Step held b cs held' := by
  have hreplacement : ¬ replacement.toNat < 0x80 := by decide
  obtain ⟨cs, next, held', hstart, hheld, hstep⟩ := exists_step_start b
  cases pending with
  | none =>
    obtain rfl : held = [] := h
    exact ⟨cs, next, held', fun bs => by rw [decodeFrom, hstart], hheld, hstep⟩
  | some p =>
    have hbegun : Begun held p := h
    by_cases hrange : p.low ≤ b.toNat ∧ b.toNat ≤ p.high
    · obtain ⟨hlow, hhigh⟩ := hrange
      by_cases hmissing : p.missing = 1
      · obtain ⟨hbytes, hlarge⟩ := hbegun.last hlow hhigh hmissing
        refine ⟨[Char.ofNat (p.code * 0x40 + (b.toNat - 0x80))], none, [], fun bs => ?_, rfl,
          .inr ?_, ?_⟩
        · rw [decodeFrom, extend_of_mem hlow hhigh, if_pos hmissing]
        · rw [List.append_nil, encode, List.flatMap_singleton, hbytes]
        · intro c hc hascii
          rw [List.mem_singleton.1 hc] at hascii
          omega
      · have hinner := hbegun.inner hlow hhigh hmissing
        refine ⟨[], some _, held ++ [b], fun bs => ?_, hinner, .inr rfl, by simp⟩
        rw [decodeFrom, extend_of_mem hlow hhigh, if_neg hmissing]
    · -- what was held is replaced, and the byte is looked at as a first one
      refine ⟨replacement :: cs, next, held', fun bs => ?_, hheld, .inl (by simp), ?_⟩
      · rw [decodeFrom, extend, if_neg hrange, hstart]
      · intro c hc hascii
        rcases List.mem_cons.1 hc with rfl | hc
        · exact absurd hascii hreplacement
        · exact hstep.ascii c hc hascii

/-! ### All bytes -/

/-- A text without replacement characters has the bytes that were held and those that it was read
    from. -/
theorem encode_decodeFrom {pending : Option Pending} {held bs : List UInt8}
    (h : Held pending held) (hnone : replacement ∉ decodeFrom pending bs) :
    encode (decodeFrom pending bs) = held ++ bs := by
  induction bs generalizing pending held with
  | nil =>
    cases pending with
    | none =>
      obtain rfl : held = [] := h
      rfl
    | some p => simp [decodeFrom] at hnone
  | cons b bs ih =>
    obtain ⟨cs, next, held', hread, hheld, hstep⟩ := exists_step h b
    rw [hread, List.mem_append, not_or] at hnone
    have hbytes := hstep.kept.resolve_left hnone.1
    rw [hread, encode, List.flatMap_append, ← encode, ← encode, ih hheld hnone.2,
      ← List.append_assoc, hbytes, List.append_assoc, List.singleton_append]

/-- A text without replacement characters has the bytes that it was read from. -/
theorem encode_decode_of_notMem {bs : List UInt8} (h : replacement ∉ decode bs) :
    encode (decode bs) = bs :=
  encode_decodeFrom held_none h

/-- Reading keeps exactly the bytes that are UTF-8. -/
theorem encode_decode_iff {bs : List UInt8} : encode (decode bs) = bs ↔ IsUtf8 bs := by
  constructor
  · exact fun h => ⟨_, h⟩
  · rintro ⟨s, rfl⟩
    rw [decode_encode]

/-- Bytes that are not UTF-8 leave a replacement character. -/
theorem replacement_mem_decode {bs : List UInt8} (h : ¬ IsUtf8 bs) : replacement ∈ decode bs := by
  refine Decidable.byContradiction fun hnone => h ?_
  exact ⟨_, encode_decode_of_notMem hnone⟩

/-- A character below 0x80 is read from its own byte only. -/
theorem mem_of_mem_decodeFrom {pending : Option Pending} {held bs : List UInt8}
    (h : Held pending held) {b : UInt8} (hb : b.toNat < 0x80)
    (hmem : Char.ofNat b.toNat ∈ decodeFrom pending bs) : b ∈ bs := by
  have hc : (Char.ofNat b.toNat).toNat = b.toNat := toNat_ofNat (by omega)
  induction bs generalizing pending held with
  | nil =>
    cases pending with
    | none => simp [decodeFrom] at hmem
    | some p =>
      rw [decodeFrom, List.mem_singleton] at hmem
      rw [hmem] at hc
      exact absurd (hc ▸ hb) (by decide)
  | cons a bs ih =>
    obtain ⟨cs, next, held', hread, hheld, hstep⟩ := exists_step h a
    rw [hread, List.mem_append] at hmem
    rcases hmem with hmem | hmem
    · have hsame : b.toNat = a.toNat := hc.symm.trans (hstep.ascii _ hmem (by omega))
      rw [UInt8.toNat_inj.1 hsame]
      exact List.mem_cons_self
    · exact List.mem_cons_of_mem _ (ih hheld hmem)

/-- The bytes on the two sides of a byte below 0x80 are read each for itself. -/
theorem decodeFrom_append_ascii {pending : Option Pending} {held : List UInt8}
    (h : Held pending held) {b : UInt8} (hb : b.toNat < 0x80) (before after : List UInt8) :
    decodeFrom pending (before ++ b :: after) =
      decodeFrom pending before ++ Char.ofNat b.toNat :: decode after := by
  induction before generalizing pending held with
  | nil =>
    have hstart : start b.toNat = ([Char.ofNat b.toNat], none) := by rw [start, if_pos hb]
    cases pending with
    | none =>
      have hread : decodeFrom none (b :: after) = [Char.ofNat b.toNat] ++ decode after := by
        rw [decodeFrom, hstart, decode]
      exact hread
    | some p =>
      -- what is held cannot go on with this byte
      have hbegun : Begun held p := h
      have hlow := hbegun.low_le
      have hextend : extend p b.toNat = ([replacement, Char.ofNat b.toNat], none) := by
        rw [extend, if_neg (by omega), hstart]
      have hread : decodeFrom (some p) (b :: after) =
          [replacement, Char.ofNat b.toNat] ++ decode after := by
        rw [decodeFrom, hextend, decode]
      exact hread
  | cons a before ih =>
    obtain ⟨cs, next, held', hread, hheld, -⟩ := exists_step h a
    rw [List.cons_append, hread, hread, ih hheld, List.append_assoc]

/-- The bytes on the two sides of a byte below 0x80 are read each for itself. -/
theorem decode_append_ascii {b : UInt8} (hb : b.toNat < 0x80) (before after : List UInt8) :
    decode (before ++ b :: after) = decode before ++ Char.ofNat b.toNat :: decode after :=
  decodeFrom_append_ascii held_none hb before after

/-- A character below 0x80 is read exactly where its byte is. -/
theorem mem_decode_iff {b : UInt8} (hb : b.toNat < 0x80) {bs : List UInt8} :
    Char.ofNat b.toNat ∈ decode bs ↔ b ∈ bs := by
  constructor
  · exact mem_of_mem_decodeFrom held_none hb
  · intro hmem
    obtain ⟨before, after, rfl⟩ := List.append_of_mem hmem
    rw [decode_append_ascii hb]
    simp

end ImageBuild.Text.Utf8
