import ImageBuild.Text.Units

namespace ImageBuild.Text.Utf8

/-!
# UTF-8 — the byte form of a text, and a reader that accepts every byte sequence

`encode` writes one to four bytes a character.  `decode` never fails: it puts one replacement
character for each maximal piece of a broken sequence, and keeps a leading byte order mark.
-/

/-- The bytes of one character. -/
def encodeChar (c : Char) : List UInt8 :=
  let n := c.toNat
  if n < 0x80 then [n.toUInt8]
  else if n < 0x800 then [(0xC0 + n / 0x40).toUInt8, (0x80 + n % 0x40).toUInt8]
  else if n < 0x10000 then
    [(0xE0 + n / 0x1000).toUInt8, (0x80 + n / 0x40 % 0x40).toUInt8, (0x80 + n % 0x40).toUInt8]
  else
    [(0xF0 + n / 0x40000).toUInt8, (0x80 + n / 0x1000 % 0x40).toUInt8,
      (0x80 + n / 0x40 % 0x40).toUInt8, (0x80 + n % 0x40).toUInt8]

/-- The bytes of a text. -/
def encode (s : List Char) : List UInt8 := s.flatMap encodeChar

/-- A sequence that has begun: the bytes still missing, the code so far, and the range that the
    next byte has to lie in. -/
structure Pending where
  missing : Nat
  code : Nat
  low : Nat := 0x80
  high : Nat := 0xBF

/-- What a byte does where a character may begin: it is a character, begins a sequence, or is
    broken. -/
def start (b : Nat) : List Char × Option Pending :=
  if b < 0x80 then ([Char.ofNat b], none)
  else if 0xC2 ≤ b ∧ b ≤ 0xDF then ([], some { missing := 1, code := b - 0xC0 })
  else if b = 0xE0 then ([], some { missing := 2, code := 0, low := 0xA0 })
  else if b = 0xED then ([], some { missing := 2, code := 0xD, high := 0x9F })
  else if 0xE1 ≤ b ∧ b ≤ 0xEF then ([], some { missing := 2, code := b - 0xE0 })
  else if b = 0xF0 then ([], some { missing := 3, code := 0, low := 0x90 })
  else if b = 0xF4 then ([], some { missing := 3, code := 4, high := 0x8F })
  else if 0xF1 ≤ b ∧ b ≤ 0xF3 then ([], some { missing := 3, code := b - 0xF0 })
  else ([replacement], none)

/-- What a byte does inside a sequence.  One that does not continue it leaves a replacement
    character and begins anew. -/
def extend (p : Pending) (b : Nat) : List Char × Option Pending :=
  if p.low ≤ b ∧ b ≤ p.high then
    let code := p.code * 0x40 + (b - 0x80)
    if p.missing = 1 then ([Char.ofNat code], none)
    else ([], some { missing := p.missing - 1, code := code })
  else
    let (cs, next) := start b
    (replacement :: cs, next)

/-- The text of the bytes that follow what has begun. -/
def decodeFrom : Option Pending → List UInt8 → List Char
  | none, [] => []
  | some _, [] => [replacement]
  | none, b :: bs => let (cs, next) := start b.toNat; cs ++ decodeFrom next bs
  | some p, b :: bs => let (cs, next) := extend p b.toNat; cs ++ decodeFrom next bs

/-- The text of a byte sequence. -/
def decode (bs : List UInt8) : List Char := decodeFrom none bs

end ImageBuild.Text.Utf8
