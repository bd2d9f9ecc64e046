import ImageBuild.Number.Basic

namespace ImageBuild.Number

/-!
# Decimal text — the fewest digits that read back

`shortest` finds, for a positive number on the double-precision grid, the fewest decimal digits
whose value rounds back to it, and among those the nearest.  `Number.text` lays the digits out:
positional from `1e-6` up to below `1e21`, with an exponent outside.
-/

/-- The reals that round to a positive grid value: the ends, and whether they belong. -/
structure Interval where
  low : Rat
  high : Rat
  closed : Bool

/-- Whether a rational lies in an interval. -/
def Interval.has (i : Interval) (q : Rat) : Bool :=
  if i.closed then i.low ≤ q && q ≤ i.high else i.low < q && q < i.high

/-- The interval of a positive grid value `m * 2 ^ e`.  Below a power of two the grid is twice as
    fine, and the ends belong when `m` is even. -/
def intervalOf (q : Rat) : Interval :=
  let e := unitExponent q
  let m := (q * twoPow (-e)).floor.toNat
  let half := twoPow (e - 1)
  let isPower := m = Nat.pow 2 (precision - 1)
  let halfBelow := if isPower ∧ leastExponent < e then twoPow (e - 2) else half
  { low := q - halfBelow, high := q + half, closed := m % 2 == 0 }

/-- The exponent of the leading decimal digit of a positive rational. -/
def leadingExponent (q : Rat) : Int :=
  if 1 ≤ q then ((Nat.toDigits 10 q.floor.toNat).length : Int) - 1
  else
    let guess := -((Nat.toDigits 10 (q.den / q.num.toNat)).length : Int)
    if tenPow (guess + 1) ≤ q then guess + 1 else guess

/-- The best decimal of `n` digits that lies in the interval of `q`, as digits and exponent. -/
def decimalOf (q : Rat) (n : Nat) : Option (Nat × Int) :=
  let i := intervalOf q
  let e := leadingExponent q - n + 1
  let unit := tenPow e
  let below := (q * tenPow (-e)).floor.toNat
  let above := below + 1
  let low : Rat := below * unit
  let high : Rat := above * unit
  match decide (0 < below) && i.has low, i.has high with
  | false, false => none
  | true, false => some (below, e)
  | false, true => some (above, e)
  | true, true =>
    if q - low < high - q then some (below, e)
    else if high - q < q - low then some (above, e)
    else some (below + below % 2, e)

/-- The fewest decimal digits that read back as the positive grid value `q`, with the exponent of
    the last one. -/
def shortest (q : Rat) : Nat × Int :=
  ((List.range 17).findSome? fun n => decimalOf q (n + 1)).getD (0, 0)

/-- Where the layout of a number changes. -/
structure Layout where
  /-- Numbers with more integer digits than this are written with an exponent. -/
  integerDigits : Int
  /-- So are numbers with at least this many zeros after the point. -/
  leadingZeros : Int

/-- Numbers are written positionally from `1e-6` up to below `1e21`. -/
def layout : Layout := ⟨21, 6⟩

/-- `n` zeros. -/
def zeros (n : Int) : List Char := List.replicate n.toNat '0'

/-- Digits with the point after the first `point` of them. -/
def place (l : Layout) (digits : List Char) (point : Int) : List Char :=
  let count : Int := digits.length
  if count ≤ point ∧ point ≤ l.integerDigits then digits ++ zeros (point - count)
  else if 0 < point ∧ point ≤ l.integerDigits then
    digits.take point.toNat ++ '.' :: digits.drop point.toNat
  else if -l.leadingZeros < point ∧ point ≤ 0 then '0' :: '.' :: zeros (-point) ++ digits
  else
    let e := point - 1
    let mantissa := match digits with
      | [d] => [d]
      | d :: rest => d :: '.' :: rest
      | [] => []
    mantissa ++ 'e' :: (if 0 ≤ e then '+' else '-') :: Nat.toDigits 10 e.natAbs

/-- Trailing zeros moved from the digits into the exponent. -/
def trimZeros (digits : List Char) : List Char :=
  (digits.reverse.dropWhile (· == '0')).reverse

/-- The text of a positive grid value. -/
def positiveText (q : Rat) : List Char :=
  let (digits, e) := shortest q
  let written := Nat.toDigits 10 digits
  place layout (trimZeros written) (written.length + e)

/-- The text of a number. -/
def text : Number → String
  | .finite q =>
    if q = 0 then "0"
    else if q < 0 then String.ofList ('-' :: positiveText (-q))
    else String.ofList (positiveText q)
  | .infinite negative => if negative then "-Infinity" else "Infinity"
  | .undefined => "NaN"

end ImageBuild.Number
