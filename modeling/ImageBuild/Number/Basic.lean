namespace ImageBuild

/-!
# Numbers — the double-precision values that documents and delays are made of

A `Number` is an exact rational, an infinity or the result of an undefined operation.
`Number.nearest` rounds a rational to the double-precision grid, a half going to the even neighbour,
and every arithmetic operation is the exact one followed by that rounding.  The sign of zero is not
kept: no text or comparison of this library shows it.
-/

/-- A double-precision number.  Every `finite` value that this library builds lies on the
    double-precision grid. -/
inductive Number
  | finite (value : Rat)
  | infinite (negative : Bool)
  | undefined
deriving DecidableEq, Repr, Inhabited

namespace Number

/-! ### The grid -/

/-- The least exponent of a unit in the last place. -/
def leastExponent : Int := -1074

/-- The number of binary digits of a significand. -/
def precision : Nat := 53

/-- `2 ^ e` as a rational. -/
def twoPow (e : Int) : Rat :=
  if 0 ≤ e then (Nat.pow 2 e.toNat : Rat) else mkRat 1 (Nat.pow 2 (-e).toNat)

/-- `10 ^ e` as a rational. -/
def tenPow (e : Int) : Rat :=
  if 0 ≤ e then (Nat.pow 10 e.toNat : Rat) else mkRat 1 (Nat.pow 10 (-e).toNat)

/-- The exponent of the unit in the last place of a positive rational. -/
def unitExponent (q : Rat) : Int :=
  let guess : Int := (q.num.toNat.log2 : Int) - q.den.log2
  let top := if q < twoPow guess then guess - 1 else guess
  max leastExponent (top - (precision - 1 : Nat))

/-- A non-negative rational rounded to an integer, a half going to the even neighbour. -/
def roundHalfEven (q : Rat) : Nat :=
  let below := q.floor.toNat
  let rest := q - (below : Rat)
  if rest < mkRat 1 2 then below
  else if rest = mkRat 1 2 then below + below % 2
  else below + 1

/-- A positive rational on the grid, or infinity when it is too large for it. -/
def nearestPositive (q : Rat) (negative : Bool) : Number :=
  let e := unitExponent q
  let value := (roundHalfEven (q * twoPow (-e)) : Rat) * twoPow e
  if twoPow 1024 ≤ value then .infinite negative
  else .finite (if negative then -value else value)

/-- The double-precision number nearest to a rational. -/
def nearest (q : Rat) : Number :=
  if q = 0 then .finite 0
  else if q < 0 then nearestPositive (-q) true
  else nearestPositive q false

/-- The number `digits * 10 ^ exponent`, correctly rounded.  The bounds only keep the powers of
    ten small: beyond them the result is infinity or zero. -/
def ofDecimal (negative : Bool) (digits : Nat) (exponent : Int) : Number :=
  let size : Int := exponent + (Nat.toDigits 10 digits).length
  if digits = 0 || size < -330 then .finite 0
  else if 310 < size then .infinite negative
  else nearest ((if negative then -(digits : Rat) else (digits : Rat)) * tenPow exponent)

instance (n : Nat) : OfNat Number n := ⟨nearest (n : Rat)⟩

/-! ### Arithmetic -/

/-- Whether a number is below zero. -/
def isNegative : Number → Bool
  | .finite q => q < 0
  | .infinite negative => negative
  | .undefined => false

/-- Sum, with a rule for rounding the exact result. -/
def addWith (round : Rat → Number) : Number → Number → Number
  | .finite a, .finite b => round (a + b)
  | .infinite s, .finite _ => .infinite s
  | .finite _, .infinite s => .infinite s
  | .infinite s, .infinite t => if s = t then .infinite s else .undefined
  | _, _ => .undefined

/-- Product, with a rule for rounding the exact result. -/
def mulWith (round : Rat → Number) : Number → Number → Number
  | .finite a, .finite b => round (a * b)
  | .infinite s, .finite b => if b = 0 then .undefined else .infinite (s != decide (b < 0))
  | .finite a, .infinite s => if a = 0 then .undefined else .infinite (s != decide (a < 0))
  | .infinite s, .infinite t => .infinite (s != t)
  | _, _ => .undefined

/-- The integer nearest to a rational, a half going up. -/
def roundHalfUp (q : Rat) : Int := (q + mkRat 1 2).floor

/-- A number rounded to an integer, a half going up. -/
def round : Number → Number
  | .finite q => .finite (roundHalfUp q : Rat)
  | n => n

/-! ### Comparisons -/

/-- Whether `a < b`; nothing compares with an undefined number. -/
def lt : Number → Number → Bool
  | .finite a, .finite b => a < b
  | .finite _, .infinite s => !s
  | .infinite s, .finite _ => s
  | .infinite s, .infinite t => s && !t
  | _, _ => false

/-- Whether `a ≤ b`. -/
def le (a b : Number) : Bool := lt a b || (a = b && a ≠ .undefined)

/-- Whether a number is a (finite) integer. -/
def isInteger : Number → Bool
  | .finite q => q.den = 1
  | _ => false

/-- The number truncated toward zero to a natural number; nothing for an infinity. -/
def toNat? : Number → Option Nat
  | .finite q => some q.floor.toNat
  | _ => none

end Number

end ImageBuild
