import ImageBuild.Number.Basic
import Mathlib.Data.Rat.Cast.Order
import Mathlib.Data.Rat.Floor
import Mathlib.Tactic.Linarith

namespace ImageBuild

/-!
# Numbers — comparisons of those that are finite, and rounding to them

* `le_finite_iff`, `le_natCast_iff`, `lt_finite_natCast` — finite numbers compare as the rationals that
  they are, and those that are natural numbers as these.
* `Number.exists_nearest_eq` — a rational between two values of double precision is rounded to one
  between them, so that a value of double precision stays as it is (`Number.nearest_of_isOnGrid`).
-/

/-- Finite numbers compare as the rationals that they are. -/
theorem le_finite_iff (a b : Rat) : Number.le (.finite a) (.finite b) = true ↔ a ≤ b := by
  simp only [Number.le, Number.lt, Bool.or_eq_true, Bool.and_eq_true, decide_eq_true_eq]
  constructor
  · rintro (h | ⟨h, -⟩)
    · exact le_of_lt h
    · exact (Number.finite.inj h).le
  · intro h
    rcases lt_or_eq_of_le h with h | rfl
    · exact .inl h
    · exact .inr (by simp)

/-- Natural numbers compare as such. -/
theorem le_natCast_iff (m n : Nat) : Number.le (.finite m) (.finite n) = true ↔ m ≤ n := by
  rw [le_finite_iff, Nat.cast_le]

/-- The integers not below zero are the natural numbers. -/
theorem exists_nat_iff {n : Number} :
    (∃ k : Nat, n = .finite k) ↔ n.isInteger = true ∧ n.isNegative = false := by
  cases n with
  | finite q =>
    simp only [Number.isInteger, Number.isNegative, Number.finite.injEq, decide_eq_true_eq,
      decide_eq_false_iff_not, not_lt]
    constructor
    · rintro ⟨k, rfl⟩
      exact ⟨Rat.den_natCast k, by exact_mod_cast Nat.zero_le k⟩
    · rintro ⟨hden, hnonneg⟩
      have hnum : ((q.num.toNat : Int) : Rat) = q.num := by
        rw [Int.toNat_of_nonneg (Rat.num_nonneg.2 hnonneg)]
      exact ⟨q.num.toNat, by rw [← (Rat.den_eq_one_iff q).1 hden, ← hnum]; rfl⟩
  | _ => simp [Number.isInteger]

/-- What is above zero is not below it. -/
theorem isNegative_of_lt {n : Number} (h : Number.lt 0 n = true) : n.isNegative = false := by
  rw [show (0 : Number) = .finite 0 by rfl] at h
  cases n with
  | finite q =>
    rw [Number.lt, decide_eq_true_eq] at h
    exact decide_eq_false (not_lt_of_gt h)
  | infinite negative => simpa [Number.lt, Number.isNegative] using h
  | undefined => rfl

/-- A natural number is above zero when it is as a number. -/
theorem lt_finite_natCast (k : Nat) : Number.lt 0 (.finite k) = true ↔ 0 < k := by
  have hzero : (0 : Number) = .finite 0 := by rfl
  rw [hzero, Number.lt, decide_eq_true_eq]
  exact_mod_cast Iff.rfl

namespace Number

/-! ### Rounding -/

/-- The powers of two that numbers are made of. -/
theorem twoPow_eq_zpow (e : Int) : twoPow e = (2 : Rat) ^ e := by
  unfold twoPow
  split
  · rename_i he
    conv_rhs => rw [← Int.toNat_of_nonneg he, zpow_natCast]
    exact_mod_cast rfl
  · rename_i he
    have hneg : e = -(((-e).toNat : Nat) : Int) := by omega
    conv_rhs => rw [hneg, zpow_neg, zpow_natCast]
    rw [Rat.mkRat_eq_div, Nat.pow_eq]
    push_cast
    rw [one_div]

/-- A value that double precision has: less than 2 ^ 53 units of a place that is not too low. -/
def IsOnGrid (q : Rat) : Prop :=
  ∃ (units : Nat) (e : Int), units < 2 ^ precision ∧ leastExponent ≤ e ∧ q = units * (2 : Rat) ^ e

/-- Above the lowest place, a rational has at least 53 binary digits in front of its unit. -/
theorem zpow_le_of_unitExponent {q : Rat} (hq : 0 < q) (he : leastExponent < unitExponent q) :
    (2 : Rat) ^ (unitExponent q + 52) ≤ q := by
  have hnum : 0 < q.num := Rat.num_pos.2 hq
  have hden : (0 : Rat) < q.den := by exact_mod_cast q.den_pos
  let guess : Int := (q.num.toNat.log2 : Int) - q.den.log2
  have htop : unitExponent q + 52 = if q < twoPow guess then guess - 1 else guess := by
    have hunit : unitExponent q =
        max leastExponent ((if q < twoPow guess then guess - 1 else guess) - 52) := rfl
    omega
  rw [htop]
  split
  · -- the numerator is at least, and the denominator less than twice, the power of its digits
    have hnumPow : (2 : Rat) ^ (q.num.toNat.log2 : Int) ≤ q.num := by
      have hle : 2 ^ q.num.toNat.log2 ≤ q.num.toNat := Nat.log2_self_le (by omega)
      have hcast : ((2 ^ q.num.toNat.log2 : Nat) : Int) ≤ q.num := by omega
      rw [zpow_natCast]
      exact_mod_cast hcast
    have hdenPow : (q.den : Rat) ≤ (2 : Rat) ^ ((q.den.log2 : Int) + 1) := by
      have hlt : q.den < 2 ^ (q.den.log2 + 1) := Nat.lt_log2_self
      have hcast : ((q.den.log2 : Int) + 1) = ((q.den.log2 + 1 : Nat) : Int) := by push_cast; rfl
      rw [hcast, zpow_natCast]
      exact_mod_cast hlt.le
    have hsplit : (2 : Rat) ^ (guess - 1) * (2 : Rat) ^ ((q.den.log2 : Int) + 1) =
        (2 : Rat) ^ (q.num.toNat.log2 : Int) := by
      rw [← zpow_add₀ (by norm_num)]
      congr 1
      show (q.num.toNat.log2 : Int) - q.den.log2 - 1 + (q.den.log2 + 1) = _
      ring
    have hq' : q * q.den = q.num := Rat.mul_den_eq_num q
    refine le_of_mul_le_mul_right ?_ hden
    calc (2 : Rat) ^ (guess - 1) * q.den
        ≤ (2 : Rat) ^ (guess - 1) * (2 : Rat) ^ ((q.den.log2 : Int) + 1) :=
          mul_le_mul_of_nonneg_left hdenPow (zpow_nonneg (by norm_num) _)
      _ ≤ q * q.den := by rw [hsplit, hq']; exact hnumPow
  · rename_i hge
    rw [← twoPow_eq_zpow]
    exact not_lt.1 hge

/-- Rounding to an integer stays between the integers around. -/
theorem roundHalfEven_bounds {x : Rat} (hx : 0 ≤ x) :
    ⌊x⌋ ≤ roundHalfEven x ∧ (roundHalfEven x : Int) ≤ ⌈x⌉ := by
  have hfloor : ((x.floor.toNat : Nat) : Int) = ⌊x⌋ := Int.toNat_of_nonneg (Int.floor_nonneg.2 hx)
  have hceil : x - ((x.floor.toNat : Nat) : Rat) ≠ 0 → ⌊x⌋ + 1 ≤ ⌈x⌉ := by
    intro hrest
    have hlt : ⌊x⌋ < ⌈x⌉ := by
      rw [Int.lt_ceil]
      refine lt_of_le_of_ne (Int.floor_le x) fun heq => hrest ?_
      have hcast : ((x.floor.toNat : Nat) : Rat) = ((⌊x⌋ : Int) : Rat) := by exact_mod_cast hfloor
      rw [hcast, heq, sub_self]
    exact hlt
  have hle : ⌊x⌋ ≤ ⌈x⌉ := Int.floor_le_ceil x
  have hhalf : mkRat 1 2 ≠ 0 := by decide +kernel
  unfold roundHalfEven
  dsimp only
  split
  · omega
  · rename_i hrest
    have hne : x - ((x.floor.toNat : Nat) : Rat) ≠ 0 := fun hzero =>
      hrest (by rw [hzero]; decide +kernel)
    have hnext := hceil hne
    split <;> omega

/-- The value that a positive rational is rounded to. -/
def roundedValue (q : Rat) : Rat :=
  (roundHalfEven (q * twoPow (-unitExponent q)) : Rat) * twoPow (unitExponent q)

/-- It is a whole number of units. -/
theorem roundedValue_eq (q : Rat) :
    roundedValue q = roundHalfEven (q / 2 ^ unitExponent q) * (2 : Rat) ^ unitExponent q := by
  rw [roundedValue, twoPow_eq_zpow, twoPow_eq_zpow, zpow_neg, div_eq_mul_inv]

/-- A value of double precision is a whole number of units of a rational, unless it is below all that
    the rational is rounded to. -/
theorem IsOnGrid.cases {g : Rat} (hg : IsOnGrid g) {q : Rat} (hq : 0 < q) :
    (∃ n : Nat, g = n * (2 : Rat) ^ unitExponent q) ∨
      g ≤ (2 : Rat) ^ (52 : Int) * (2 : Rat) ^ unitExponent q ∧
        (2 : Rat) ^ (52 : Int) * (2 : Rat) ^ unitExponent q ≤ q := by
  obtain ⟨units, e, hunits, he, rfl⟩ := hg
  by_cases hcoarse : unitExponent q ≤ e
  · refine .inl ⟨units * 2 ^ (e - unitExponent q).toNat, ?_⟩
    have hshift : e = ((e - unitExponent q).toNat : Int) + unitExponent q := by omega
    conv_lhs => rw [hshift, zpow_add₀ (by norm_num), zpow_natCast]
    push_cast
    ring
  · have hle : (units : Rat) ≤ 2 ^ (53 : Int) := by
      have hunits' : units ≤ 2 ^ 53 := hunits.le
      exact_mod_cast hunits'
    refine .inr ⟨?_, ?_⟩
    · calc (units : Rat) * 2 ^ e ≤ 2 ^ (53 : Int) * 2 ^ e :=
            mul_le_mul_of_nonneg_right hle (zpow_nonneg (by norm_num) _)
        _ = 2 ^ (53 + e) := (zpow_add₀ (by norm_num) _ _).symm
        _ ≤ 2 ^ (52 + unitExponent q) := zpow_le_zpow_right₀ (by norm_num) (by omega)
        _ = 2 ^ (52 : Int) * 2 ^ unitExponent q := zpow_add₀ (by norm_num) _ _
    · rw [← zpow_add₀ (by norm_num), add_comm]
      exact zpow_le_of_unitExponent hq (by omega)

/-- Rounding does not get past a value that double precision has. -/
theorem roundedValue_le {q g : Rat} (hq : 0 < q) (hg : IsOnGrid g) (h : q ≤ g) :
    roundedValue q ≤ g := by
  have hunit : (0 : Rat) < 2 ^ unitExponent q := zpow_pos (by norm_num) _
  have hgrid : ∃ n : Nat, g = n * (2 : Rat) ^ unitExponent q := by
    rcases hg.cases hq with hn | ⟨hle, hge⟩
    · exact hn
    · exact ⟨2 ^ 52, by push_cast; exact le_antisymm hle (hge.trans h)⟩
  obtain ⟨n, rfl⟩ := hgrid
  rw [roundedValue_eq]
  refine mul_le_mul_of_nonneg_right ?_ hunit.le
  have hceil : ⌈q / 2 ^ unitExponent q⌉ ≤ n := by
    rw [Int.ceil_le, div_le_iff₀ hunit]
    exact_mod_cast h
  have hround := (roundHalfEven_bounds (div_nonneg hq.le hunit.le)).2.trans hceil
  exact_mod_cast hround

/-- Rounding does not get below a value that double precision has. -/
theorem le_roundedValue {q g : Rat} (hq : 0 < q) (hg : IsOnGrid g) (h : g ≤ q) :
    g ≤ roundedValue q := by
  have hunit : (0 : Rat) < 2 ^ unitExponent q := zpow_pos (by norm_num) _
  have hgrid : ∃ n : Nat, g ≤ n * (2 : Rat) ^ unitExponent q ∧ n * (2 : Rat) ^ unitExponent q ≤ q := by
    rcases hg.cases hq with ⟨n, rfl⟩ | ⟨hle, hge⟩
    · exact ⟨n, le_refl _, h⟩
    · exact ⟨2 ^ 52, by exact_mod_cast hle, by exact_mod_cast hge⟩
  obtain ⟨n, hle, hn⟩ := hgrid
  refine hle.trans ?_
  rw [roundedValue_eq]
  refine mul_le_mul_of_nonneg_right ?_ hunit.le
  have hfloor : (n : Int) ≤ ⌊q / 2 ^ unitExponent q⌋ := by
    rw [Int.le_floor, le_div_iff₀ hunit]
    exact_mod_cast hn
  have hround := hfloor.trans (roundHalfEven_bounds (div_nonneg hq.le hunit.le)).1
  exact_mod_cast hround

/-- Zero is a value of double precision. -/
theorem isOnGrid_zero : IsOnGrid 0 := ⟨0, 0, by decide, by decide, by simp⟩

/-- **Monotonic rounding.** The number nearest to a rational between two values of double precision is
    between them. -/
theorem exists_nearest_eq {low q high : Rat} (hlow : IsOnGrid low) (hhigh : IsOnGrid high)
    (hzero : 0 ≤ low) (hle : low ≤ q) (hge : q ≤ high) (hfinite : high < (2 : Rat) ^ (1024 : Int)) :
    ∃ value, nearest q = .finite value ∧ low ≤ value ∧ value ≤ high := by
  rcases (hzero.trans hle).eq_or_lt with rfl | hq
  · exact ⟨0, rfl, hle, hge⟩
  · have hvalue := roundedValue_le hq hhigh hge
    refine ⟨roundedValue q, ?_, le_roundedValue hq hlow hle, hvalue⟩
    have hsmall : ¬ twoPow 1024 ≤ roundedValue q := by
      rw [twoPow_eq_zpow, not_le]
      exact hvalue.trans_lt hfinite
    rw [nearest, if_neg hq.ne', if_neg (not_lt.2 hq.le)]
    show (if twoPow 1024 ≤ roundedValue q then _ else _) = _
    rw [if_neg hsmall]
    rfl

/-- A value that double precision has is not changed by rounding. -/
theorem nearest_of_isOnGrid {q : Rat} (hq : IsOnGrid q) (hzero : 0 ≤ q)
    (hfinite : q < (2 : Rat) ^ (1024 : Int)) : nearest q = .finite q := by
  obtain ⟨value, hnearest, hle, hge⟩ :=
    exists_nearest_eq hq hq hzero (le_refl q) (le_refl q) hfinite
  rw [hnearest, le_antisymm hge hle]

end Number

end ImageBuild
