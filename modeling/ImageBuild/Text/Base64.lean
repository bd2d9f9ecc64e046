namespace ImageBuild.Text.Base64

/-!
# Base64 — bytes as header-safe text

`encode` writes the URL-safe alphabet with padding.  `isWellFormed` accepts both alphabets, mixed
freely, and at most two `=` at the end whatever the length; `decode` reads both alphabets up to the
first `=`, drops leftover bits, and takes nothing from a single leftover character.
-/

/-- A value below 64 as its character in the URL-safe alphabet. -/
def digit (n : Nat) : Char :=
  if n < 26 then Char.ofNat ('A'.toNat + n)
  else if n < 52 then Char.ofNat ('a'.toNat + (n - 26))
  else if n < 62 then Char.ofNat ('0'.toNat + (n - 52))
  else if n = 62 then '-'
  else '_'

/-- The value of a character in either alphabet. -/
def value? (c : Char) : Option Nat :=
  if 'A' ≤ c ∧ c ≤ 'Z' then some (c.toNat - 'A'.toNat)
  else if 'a' ≤ c ∧ c ≤ 'z' then some (c.toNat - 'a'.toNat + 26)
  else if '0' ≤ c ∧ c ≤ '9' then some (c.toNat - '0'.toNat + 52)
  else if c = '-' ∨ c = '+' then some 62
  else if c = '_' ∨ c = '/' then some 63
  else none

/-- The text of a byte sequence: four characters for three bytes, padded with `=`. -/
def encode : List UInt8 → List Char
  | [] => []
  | [a] =>
    let n := a.toNat
    [digit (n / 4), digit (n % 4 * 16), '=', '=']
  | [a, b] =>
    let n := a.toNat * 256 + b.toNat
    [digit (n / 1024), digit (n / 16 % 64), digit (n % 16 * 4), '=']
  | a :: b :: c :: rest =>
    let n := a.toNat * 65536 + b.toNat * 256 + c.toNat
    digit (n / 262144) :: digit (n / 4096 % 64) :: digit (n / 64 % 64) :: digit (n % 64) ::
      encode rest

/-- The bytes of a sequence of six-bit values. -/
def bytesOf : List Nat → List UInt8
  | a :: b :: c :: d :: rest =>
    let n := a * 262144 + b * 4096 + c * 64 + d
    (n / 65536).toUInt8 :: (n / 256 % 256).toUInt8 :: (n % 256).toUInt8 :: bytesOf rest
  | [a, b, c] =>
    let n := a * 4096 + b * 64 + c
    [(n / 1024).toUInt8, (n / 4 % 256).toUInt8]
  | [a, b] => [((a * 64 + b) / 16).toUInt8]
  | _ => []

/-- The bytes that a text denotes.  Characters of neither alphabet are passed over. -/
def decode (s : List Char) : List UInt8 :=
  bytesOf ((s.takeWhile (· != '=')).filterMap value?)

/-- Whether a text is characters of the alphabets followed by at most two `=`. -/
def isWellFormed (s : List Char) : Bool :=
  let padding := s.dropWhile fun c => (value? c).isSome
  padding == [] || padding == ['='] || padding == ['=', '=']

end ImageBuild.Text.Base64
