import ImageBuild.Number.Basic

namespace ImageBuild.Number

/-!
# Powers of two — exact for integers, and rounded step by step between them

A power with a fractional exponent is a whole power times `2 ^ x` for an `x` between minus one half
and one half.  That is the exponential function at `x ln 2`, which is computed by a rational
approximation: its even part is a polynomial in the square.  Every step rounds to the grid, so that
the result may differ from the nearest number in its last digit; `2 ^ (1/2)` is the nearest one.
-/

/-- A rational rounded to the grid. -/
def rounded (q : Rat) : Rat :=
  match nearest q with
  | .finite value => value
  | _ => q

/-- A rational with the upper 21 binary digits of its significand. -/
def upperPart (q : Rat) : Rat :=
  if q = 0 then 0
  else
    let unit := twoPow (unitExponent (if q < 0 then -q else q) + 32)
    if q < 0 then -(((-q) / unit).floor : Rat) * unit else ((q / unit).floor : Rat) * unit

/-- The natural logarithm of two. -/
def logTwo : Rat := mkRat 6243314768165359 (Nat.pow 2 53)

/-- The upper part of the logarithm. -/
def logTwoUpper : Rat := mkRat 1453635 (Nat.pow 2 21)

/-- What the upper part lacks of the logarithm. -/
def logTwoRest : Rat := mkRat (-4605171521317945) (Nat.pow 2 81)

/-- The coefficients of the even part of the approximation, that of the lowest power first. -/
def coefficients : List Rat :=
  [mkRat 3002399751580319 (Nat.pow 2 54), mkRat (-6405119469862291) (Nat.pow 2 61),
    mkRat 1220022702274443 (Nat.pow 2 64), mkRat (-7807914560613361) (Nat.pow 2 72),
    mkRat 390835970239053 (Nat.pow 2 73)]

/-- The even part of the approximation at a square. -/
def evenPart (square : Rat) : Rat :=
  coefficients.foldr (fun c sum => rounded (square * rounded (c + sum))) 0

/-- The exponential function at `z`, given with the error `w` of `z`. -/
def exponential (z w : Rat) : Rat :=
  let even := rounded (z - evenPart (rounded (z * z)))
  let quotient := rounded (rounded (z * even) / rounded (even - 2))
  let rest := rounded (quotient - rounded (w + rounded (z * w)))
  rounded (1 - rounded (rest - z))

/-- Two to the power of a rational between minus one half and one half, which is the sum of `upper`
    and the smaller `lower`. -/
def rootPower (upper lower : Rat) : Rat :=
  let head := upperPart (rounded (lower + upper))
  let left := rounded (lower - rounded (head - upper))
  let product := rounded (head * logTwoUpper)
  let correction := rounded (rounded (left * logTwo) + rounded (head * logTwoRest))
  let z := rounded (product + correction)
  exponential z (rounded (correction - rounded (z - product)))

/-- The integer nearest to a rational, a half going away from zero.  Only the upper part counts, and
    up to one half there is none. -/
def wholePart (q : Rat) : Int :=
  let upper := upperPart q
  if upper < 0 then if upper < mkRat (-1) 2 then -(mkRat 1 2 - upper).floor else 0
  else if mkRat 1 2 < upper then (upper + mkRat 1 2).floor else 0

/-- The number nearest to the square root of two. -/
def rootOfTwo : Rat := mkRat 6369051672525773 (Nat.pow 2 52)

/-- Two to the power of a number. -/
def twoToThe : Number → Number
  | .finite q =>
    if 1024 ≤ q then .infinite false
    else if q.den = 1 then if q < leastExponent then .finite 0 else .finite (twoPow q.floor)
    else if q < leastExponent - 1 then .finite 0
    else if q = mkRat 1 2 then .finite rootOfTwo
    else
      let whole := wholePart q
      nearest (rootPower (upperPart q - whole) (q - upperPart q) * twoPow whole)
  | .infinite negative => if negative then .finite 0 else .infinite false
  | .undefined => .undefined

end ImageBuild.Number
