import ImageBuild.Text.Hex

namespace ImageBuild.Digest.Sha1

/-!
# SHA-1 — the digest that names a relocated Dockerfile

The message is padded to whole blocks of 64 bytes, each block is expanded to 80 words, and 80 rounds
mix them into a state of five words.  `hex` writes the digest in small hexadecimal letters.
-/

/-- The five words that the rounds mix. -/
structure State where
  a : UInt32
  b : UInt32
  c : UInt32
  d : UInt32
  e : UInt32

/-- The state before the first block. -/
def initial : State :=
  ⟨0x67452301, 0xEFCDAB89, 0x98BADCFE, 0x10325476, 0xC3D2E1F0⟩

/-- A word rotated left. -/
def rotate (n : UInt32) (x : UInt32) : UInt32 := (x <<< n) ||| (x >>> (32 - n))

/-- The last `count` bytes of a number, most significant first. -/
def bigEndian : (count n : Nat) → List UInt8
  | 0, _ => []
  | count + 1, n => bigEndian count (n / 256) ++ [(n % 256).toUInt8]

/-- The message followed by `0x80`, zeros, and its length in bits, in whole blocks. -/
def pad (message : List UInt8) : List UInt8 :=
  let n := message.length
  message ++ 0x80 :: List.replicate ((119 - n % 64) % 64) 0 ++ bigEndian 8 (8 * n)

/-- Bytes as words of four. -/
def wordsOf : List UInt8 → List UInt32
  | a :: b :: c :: d :: rest =>
    ((a.toUInt32 <<< 24) ||| (b.toUInt32 <<< 16) ||| (c.toUInt32 <<< 8) ||| d.toUInt32) ::
      wordsOf rest
  | _ => []

/-- One more word of the expansion, computed from the last sixteen.  The newest word comes first. -/
def expandStep (newestFirst : List UInt32) : List UInt32 :=
  let back (i : Nat) : UInt32 := newestFirst.getD i 0
  rotate 1 (back 2 ^^^ back 7 ^^^ back 13 ^^^ back 15) :: newestFirst

/-- The eighty words of a block. -/
def expand (block : List UInt32) : List UInt32 :=
  ((List.range 64).foldl (fun ws _ => expandStep ws) block.reverse).reverse

/-- The mixing function and constant of a round. -/
def mixing (round : Nat) (s : State) : UInt32 × UInt32 :=
  if round < 20 then ((s.b &&& s.c) ||| (~~~s.b &&& s.d), 0x5A827999)
  else if round < 40 then (s.b ^^^ s.c ^^^ s.d, 0x6ED9EBA1)
  else if round < 60 then ((s.b &&& s.c) ||| (s.b &&& s.d) ||| (s.c &&& s.d), 0x8F1BBCDC)
  else (s.b ^^^ s.c ^^^ s.d, 0xCA62C1D6)

/-- One round. -/
def round (s : State) (step : UInt32 × Nat) : State :=
  let (f, k) := mixing step.2 s
  ⟨rotate 5 s.a + f + s.e + k + step.1, s.a, rotate 30 s.b, s.c, s.d⟩

/-- The state after a block. -/
def mixBlock (s : State) (block : List UInt32) : State :=
  let t := (expand block).zipIdx.foldl round s
  ⟨s.a + t.a, s.b + t.b, s.c + t.c, s.d + t.d, s.e + t.e⟩

/-- The state after `count` blocks of sixteen words. -/
def mixBlocks : Nat → State → List UInt32 → State
  | 0, s, _ => s
  | count + 1, s, words => mixBlocks count (mixBlock s (words.take 16)) (words.drop 16)

/-- A word as eight hexadecimal digits. -/
def wordHex (w : UInt32) : List Char := Text.hexDigits 8 w.toNat

/-- The digest of a message, as forty hexadecimal digits. -/
def hex (message : List UInt8) : List Char :=
  let words := wordsOf (pad message)
  let s := mixBlocks (words.length / 16) initial words
  wordHex s.a ++ wordHex s.b ++ wordHex s.c ++ wordHex s.d ++ wordHex s.e

end ImageBuild.Digest.Sha1
