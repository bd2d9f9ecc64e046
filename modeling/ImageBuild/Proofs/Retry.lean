import Mathlib.Data.Rat.Floor
import Mathlib.Tactic.Linarith
import Mathlib.Tactic.Positivity
import ImageBuild.Proofs.Number
import ImageBuild.Retry

namespace ImageBuild

/-!
# Retries — how often a call is made, and how long the pauses are

The surroundings of a repeated call are taken as a script: the outcome of each call and each random
number are given, and a record is kept of what happens.

* `isWorthRetry_eq_false_iff` — the failures after which a call is not repeated.
* `run_attempt` — by induction on the attempts that are left: the record of the remaining calls and
  pauses, and the outcome of the last call.
* `exactDelay_eq`, `pauseLength_bounds` — the length of a pause over the rationals, and its bounds.
* `doubleDelay_bounds`, `doubleDelay_eq_exactDelay` — in double precision the bounds are the same, and
  so is the length where nothing is rounded on the way.
* `calls_and_pauses` — all of it for a call that may be made `n` times.
-/

/-! ### What is worth a retry -/

/-- A status that leaves no hope: below 500, and neither 408 nor 429.  What is no rational number is
    only compared with 500, as the number that it counts as. -/
def IsFinalStatus : Option Json → Prop
  | some (.number (.finite q)) => q < 500 ∧ q ≠ 408 ∧ q ≠ 429
  | status => ¬ Number.le 500 (status.elim .undefined Json.numeric)

/-- The statuses that are compared with are on the grid. -/
theorem ofNat_statuses :
    (408 : Number) = .finite 408 ∧ (429 : Number) = .finite 429 ∧ (500 : Number) = .finite 500 := by
  decide +kernel

/-- A status does not pass exactly when it leaves no hope. -/
theorem isPassingStatus_eq_false_iff (status : Option Json) :
    isPassingStatus status = false ↔ IsFinalStatus status := by
  obtain ⟨h408, h429, h500⟩ := ofNat_statuses
  -- only a finite number can be 408 or 429; the others are compared with 500 in both
  match status with
  | some (.number (.finite q)) =>
    show (_ || _ || _) = false ↔ q < 500 ∧ q ≠ 408 ∧ q ≠ 429
    rw [h408, h429, h500, ← Bool.not_eq_true, Bool.or_eq_true, Bool.or_eq_true, le_finite_iff]
    simp only [beq_iff_eq, Number.finite.injEq]
    constructor
    · intro h
      push Not at h
      exact ⟨h.2, h.1.1, h.1.2⟩
    · rintro ⟨hlt, h408, h429⟩ ((h | h) | h)
      · exact h408 h
      · exact h429 h
      · exact absurd h (not_le.2 hlt)
  | some (.number (.infinite negative)) =>
    show (_ || _ || _) = false ↔ ¬ Number.le 500 (.infinite negative)
    rw [h408, h429]
    simp
  | some (.number .undefined) =>
    show (_ || _ || _) = false ↔ ¬ Number.le 500 .undefined
    rw [h408, h429]
    simp
  | some .null => exact Iff.of_eq (Bool.not_eq_true _).symm
  | some (.bool _) => exact Iff.of_eq (Bool.not_eq_true _).symm
  | some (.string _) => exact Iff.of_eq (Bool.not_eq_true _).symm
  | some (.array _) => exact Iff.of_eq (Bool.not_eq_true _).symm
  | some (.object _) => exact Iff.of_eq (Bool.not_eq_true _).symm
  | none =>
    show false = false ↔ ¬ Number.le 500 .undefined
    simp [Number.le, Number.lt]

/-- A call is not repeated exactly after client errors and after answers whose status leaves no
    hope. -/
theorem isWorthRetry_eq_false_iff (f : Failure) : f.isWorthRetry = false ↔
    (∃ e, f = .client e) ∨ ∃ status, f.answer? = some status ∧ IsFinalStatus status := by
  cases f with
  | client e => simp [Failure.isWorthRetry]
  | request r =>
    have hstep : (Failure.request r).isWorthRetry =
        ((Failure.request r).answer?.elim true isPassingStatus) := by
      cases hanswer : (Failure.request r).answer? with
      | none => simp [Failure.isWorthRetry, hanswer]
      | some status => simp [Failure.isWorthRetry, hanswer]
    rw [hstep]
    cases (Failure.request r).answer? with
    | none => simp
    | some status => simp [isPassingStatus_eq_false_iff]
  | system name message => simp [Failure.isWorthRetry, Failure.answer?]
  | value v => simp [Failure.isWorthRetry, Failure.answer?]
  | nothing => simp [Failure.isWorthRetry, Failure.answer?]

namespace Retry

/-! ### Scripts and records -/

/-- What happens while a call is repeated. -/
inductive Event
  | call
  | tell (line : Log.Line)
  | sleep (delay : Number)
deriving DecidableEq, Repr

/-- What has happened so far. -/
structure Record where
  calls : Nat := 0
  /-- How many random numbers were drawn. -/
  draws : Nat := 0
  events : List Event := []
deriving DecidableEq, Repr

/-- Surroundings that take their random numbers from a script, and keep a record. -/
def scripted (draw : Nat → Number) : Surroundings (StateM Record) where
  draw := modifyGet fun r => (draw r.draws, { r with draws := r.draws + 1 })
  tell line := modify fun r => { r with events := r.events ++ [.tell line] }
  sleep delay := modify fun r => { r with events := r.events ++ [.sleep delay] }

variable {α : Type}

/-- A call whose outcomes are given one by one. -/
def scriptedCall (outcome : Nat → Except Failure α) : StateM Record (Except Failure α) :=
  modifyGet fun r =>
    (outcome r.calls, { r with calls := r.calls + 1, events := r.events ++ [.call] })

/-- Whether a call is not repeated after this outcome, however many attempts are left. -/
def isLast : Except Failure α → Bool
  | .ok _ => true
  | .error f => !f.isWorthRetry

/-- How often a call is made that may be made `n` times: up to the first outcome after which it is
    not repeated, if that comes before. -/
def callCount (n : Nat) (outcome : Nat → Except Failure α) : Nat :=
  min n ((List.range n).findIdx (fun i => isLast (outcome i)) + 1)

variable (delay : Number → Number → Number) (p : Policy) (draw : Nat → Number)

/-- What happens from one call to the next, and with it. -/
def again (done : Nat) : List Event :=
  let length := delay (.finite done) (draw done)
  [.tell (announcement p done length), .sleep length, .call]

/-- How long an event sleeps, if it does. -/
def Event.slept? : Event → Option Number
  | .sleep length => some length
  | _ => none

/-- The record of `k` calls with the pauses between them. -/
def recordOf (k : Nat) : Record :=
  { calls := k
    draws := k - 1
    events := .call :: (List.range (k - 1)).flatMap (again delay p draw) }

/-- One pause. -/
theorem run_pause (done : Nat) (r : Record) :
    (pause delay p (scripted draw) done).run r =
      let length := delay (.finite done) (draw r.draws)
      ((), { r with
        draws := r.draws + 1
        events := r.events ++ [.tell (announcement p done length), .sleep length] }) := by
  show (_, { r with draws := _, events := r.events ++ [_] ++ [_] }) = _
  rw [List.append_assoc]
  rfl

/-- One call, and all that follows it. -/
theorem run_attempt_succ (outcome : Nat → Except Failure α) (left done : Nat) (r : Record) :
    (attempt delay p (scripted draw) (scriptedCall outcome) (left + 1) done).run r =
      let called : Record := { r with calls := r.calls + 1, events := r.events ++ [.call] }
      if isLast (outcome r.calls) || left == 0 then (outcome r.calls, called)
      else
        (attempt delay p (scripted draw) (scriptedCall outcome) left (done + 1)).run
          ((pause delay p (scripted draw) done).run called).2 := by
  rw [attempt, StateT.run_bind]
  show StateT.run (match outcome r.calls with
    | .ok a => _
    | .error failure => _) _ = _
  cases houtcome : outcome r.calls with
  | ok a => rfl
  | error f =>
    have hends : (!f.isWorthRetry || left == 0) = !(f.isWorthRetry && left != 0) := by
      rw [Bool.not_and, bne, Bool.not_not]
    show StateT.run (if f.isWorthRetry && left != 0 then _ else _) _ =
      if !f.isWorthRetry || left == 0 then _ else _
    rw [hends]
    cases f.isWorthRetry && left != 0 <;> rfl

/-- The calls that are left after some of them, with the pauses between them, and their outcome.
    They end with the first outcome after which there is no repeating, or with the last attempt. -/
theorem run_attempt (outcome : Nat → Except Failure α) (left : Nat) (r : Record)
    (hr : r.draws = r.calls) :
    let more := min left
      ((List.range' r.calls (left + 1)).findIdx fun i => isLast (outcome i))
    (attempt delay p (scripted draw) (scriptedCall outcome) (left + 1) r.calls).run r =
      (outcome (r.calls + more),
        { calls := r.calls + more + 1
          draws := r.calls + more
          events := r.events ++
            .call :: (List.range' r.calls more).flatMap (again delay p draw) }) := by
  induction left generalizing r with
  | zero =>
    rw [run_attempt_succ]
    simp [hr]
  | succ left ih =>
    rw [run_attempt_succ, List.range'_succ, List.findIdx_cons]
    cases hlast : isLast (outcome r.calls) with
    | true => simp [hr]
    | false =>
      -- the call and the pause after it are the first of the remaining record
      let length := delay (.finite r.calls) (draw r.calls)
      let paused : Record :=
        { calls := r.calls + 1
          draws := r.calls + 1
          events := r.events ++ [.call] ++
            [.tell (announcement p r.calls length), .sleep length] }
      have hpaused : ((pause delay p (scripted draw) r.calls).run
          { r with calls := r.calls + 1, events := r.events ++ [.call] }).2 = paused := by
        rw [run_pause, hr]
      have hnext := ih paused rfl
      simp only [Bool.false_or, Nat.add_one_ne_zero, beq_iff_eq, if_false, hpaused,
        cond_false, Nat.add_min_add_right]
      show StateT.run (attempt _ _ _ _ _ paused.calls) paused = _
      rw [hnext]
      generalize min left _ = more
      have hcalls : r.calls + 1 + more = r.calls + (more + 1) := by omega
      simp only [paused, hcalls, List.range'_succ, List.flatMap_cons, List.append_assoc]
      rfl

/-- The number of calls is not zero, and the last of them is the only one that ends the repeating,
    unless the attempts are used up. -/
theorem callCount_spec {n : Nat} (hn : 1 ≤ n) (outcome : Nat → Except Failure α) :
    1 ≤ callCount n outcome ∧ callCount n outcome ≤ n ∧
      (∀ i, i + 1 < callCount n outcome → isLast (outcome i) = false) ∧
      (callCount n outcome = n ∨ isLast (outcome (callCount n outcome - 1)) = true) := by
  unfold callCount
  refine ⟨by omega, by omega, fun i hi => ?_, ?_⟩
  · have hlt : i < (List.range n).findIdx fun i => isLast (outcome i) := by omega
    simpa using List.not_of_lt_findIdx hlt
  · by_cases hlt : ((List.range n).findIdx fun i => isLast (outcome i)) < n
    · right
      have hlt' : ((List.range n).findIdx fun i => isLast (outcome i)) < (List.range n).length := by
        simpa using hlt
      have hfound := List.findIdx_getElem (w := hlt')
      rw [Nat.min_eq_right (by omega), Nat.add_sub_cancel]
      simpa using hfound
    · left
      omega

/-- **A call that may be made `n` times.** -/
theorem run_scripted {n : Nat} (hn : 1 ≤ n) (hp : p.attempts = .finite n)
    (outcome : Nat → Except Failure α) :
    (attempt delay p (scripted draw) (scriptedCall outcome) p.count 0).run {} =
      (outcome (callCount n outcome - 1), recordOf delay p draw (callCount n outcome)) := by
  obtain ⟨left, rfl⟩ : ∃ left, n = left + 1 := ⟨n - 1, by omega⟩
  have hcount : p.count = left + 1 := by
    have hceil : ((left + 1 : Nat) : Rat).ceil = (left + 1 : Nat) := Rat.ceil_intCast _
    rw [Policy.count, hp]
    show ((left + 1 : Nat) : Rat).ceil.toNat = left + 1
    rw [hceil, Int.toNat_natCast]
  have hrun := run_attempt delay p draw outcome left {} rfl
  rw [hcount]
  have hcalls : callCount (left + 1) outcome =
      min left ((List.range' 0 (left + 1)).findIdx fun i => isLast (outcome i)) + 1 := by
    rw [callCount, List.range_eq_range', Nat.add_min_add_right]
  rw [hcalls, recordOf, Nat.add_sub_cancel, List.range_eq_range']
  simpa using hrun

/-! ### The length of a pause -/

/-- Two to the power of an integer, however large. -/
def exactPower : Number → Number
  | .finite q => .finite (Number.twoPow q.floor)
  | n => n

/-- The length of a pause, computed as it is in double precision but without rounding on the way and
    without a largest number. -/
def exactDelay (base attempt draw : Number) : Number :=
  jitteredDelay .finite base attempt draw exactPower

/-- Powers of two without a largest number are those of double precision below it. -/
theorem exactPower_eq (i : Nat) (hi : i < 1024) :
    exactPower (.finite i) = Number.twoToThe (.finite i) := by
  have hlt : ¬ (1024 : Rat) ≤ i := by
    rw [not_le]
    exact_mod_cast hi
  have hleast : ¬ (i : Rat) < Number.leastExponent := by
    show ¬ (i : Rat) < ((-1074 : Int) : Rat)
    rw [not_lt]
    push_cast
    exact le_trans (by norm_num) (Nat.cast_nonneg i)
  simp [exactPower, Number.twoToThe, hlt, hleast]

/-- The power that doubles a delay `i` times. -/
theorem twoPow_floor (i : Nat) : Number.twoPow (i : Rat).floor = 2 ^ i := by
  have hfloor : (i : Rat).floor = i := Rat.floor_intCast i
  rw [hfloor, Number.twoPow, if_pos (Int.natCast_nonneg i), Int.toNat_natCast]
  exact_mod_cast rfl

/-- One half, as the rational that it is. -/
theorem half_eq : half = .finite (1 / 2) := by
  rw [half, Rat.mkRat_eq_div]
  norm_num

/-- A half goes up. -/
theorem roundHalfUp_eq (q : Rat) : Number.roundHalfUp q = ⌊q + 1 / 2⌋ := by
  have hhalf : mkRat 1 2 = 1 / 2 := Number.finite.inj half_eq
  rw [Number.roundHalfUp, hhalf]
  rfl

/-- The length of the pause after `i` others, by the random number `r`: the base doubled `i` times,
    less a random part of its half, and rounded with a half going up. -/
def pauseLength (b i : Nat) (r : Rat) : Int :=
  ⌊b * (2 : Rat) ^ i * (1 / 2 + 1 / 2 * r) + 1 / 2⌋

/-- That is what is rounded once, at the end. -/
theorem pauseLength_eq (b i : Nat) (r : Rat) :
    pauseLength b i r = Number.roundHalfUp (b * 2 ^ i * (1 / 2 + r * (1 / 2))) := by
  rw [roundHalfUp_eq, pauseLength, mul_comm r]

/-- It is the length of a pause over the rationals. -/
theorem exactDelay_eq (b i : Nat) (r : Rat) :
    exactDelay (.finite b) (.finite i) (.finite r) = .finite (pauseLength b i r) := by
  rw [exactDelay, jitteredDelay, half_eq, pauseLength_eq, ← twoPow_floor]
  rfl

/-- Rounding half of an integer, or more than that up to the integer, stays between the two: rounding
    goes down by less than one half, and half of an integer is not rounded down. -/
theorem roundHalfUp_bounds {n : Nat} {q : Rat} (hle : (n / 2 : Rat) ≤ q) (hge : q ≤ n) :
    (n / 2 : Rat) ≤ Number.roundHalfUp q ∧ (Number.roundHalfUp q : Rat) ≤ n := by
  rw [roundHalfUp_eq]
  constructor
  · -- twice the rounded value is an integer above that one less one
    have hup : q + 1 / 2 < ⌊q + 1 / 2⌋ + 1 := Int.lt_floor_add_one _
    have htwice : (n : Rat) < 2 * ⌊q + 1 / 2⌋ + 1 := by linarith
    have hint : (n : Int) < 2 * ⌊q + 1 / 2⌋ + 1 := by exact_mod_cast htwice
    have hle : (n : Int) ≤ 2 * ⌊q + 1 / 2⌋ := by omega
    have hcast : (n : Rat) ≤ 2 * ⌊q + 1 / 2⌋ := by exact_mod_cast hle
    linarith
  · have hlt : ⌊q + 1 / 2⌋ < (n : Int) + 1 := by
      rw [Int.floor_lt]
      push_cast
      linarith
    exact_mod_cast Int.lt_add_one_iff.1 hlt

/-- A pause takes between half of the doubled base and all of it. -/
theorem pauseLength_bounds (b i : Nat) {r : Rat} (hr : 0 ≤ r) (hr' : r < 1) :
    (b * 2 ^ i / 2 : Rat) ≤ pauseLength b i r ∧ (pauseLength b i r : Rat) ≤ b * 2 ^ i := by
  have hfull : (0 : Rat) ≤ (b * 2 ^ i : Nat) := Nat.cast_nonneg _
  have hrandom : 0 ≤ ((b * 2 ^ i : Nat) : Rat) * r := mul_nonneg hfull hr
  have hrandom' : ((b * 2 ^ i : Nat) : Rat) * r ≤ (b * 2 ^ i : Nat) :=
    mul_le_of_le_one_right hfull hr'.le
  have hbounds := roundHalfUp_bounds (n := b * 2 ^ i)
    (q := (b * 2 ^ i : Nat) * (1 / 2 + r * (1 / 2))) (by linarith) (by linarith)
  rw [pauseLength_eq]
  push_cast at hbounds
  exact hbounds

/-! ### In double precision -/

/-- The doubled base is a value of double precision, and so is half of it. -/
theorem isOnGrid_doubled {b : Nat} (hb : b < 2 ^ 53) (i : Nat) :
    Number.IsOnGrid (b * 2 ^ i : Rat) ∧ Number.IsOnGrid (b * 2 ^ i / 2 : Rat) := by
  refine ⟨⟨b, i, hb, ?_, by rw [zpow_natCast]⟩, ⟨b, i - 1, hb, ?_, ?_⟩⟩
  · show (-1074 : Int) ≤ i
    omega
  · show (-1074 : Int) ≤ i - 1
    omega
  · rw [zpow_sub_one₀ (by norm_num), zpow_natCast]
    ring

/-- One half and one are values of double precision. -/
theorem isOnGrid_half_one : Number.IsOnGrid (1 / 2) ∧ Number.IsOnGrid 1 :=
  ⟨⟨1, -1, by decide, by decide, by norm_num⟩, ⟨1, 0, by decide, by decide, by norm_num⟩⟩

/-- What is less than two to the power of 1024 as a natural number is so as a rational. -/
theorem cast_lt_largest {b i : Nat} (hfull : b * 2 ^ i < 2 ^ 1024) :
    (b * 2 ^ i : Rat) < (2 : Rat) ^ (1024 : Int) := by
  exact_mod_cast hfull

/-- One is far below that. -/
theorem one_lt_largest : (1 : Rat) < (2 : Rat) ^ (1024 : Int) :=
  one_lt_zpow₀ (by norm_num) (by norm_num)

/-- The doubled base is not below zero. -/
theorem doubled_nonneg (b i : Nat) : (0 : Rat) ≤ b * 2 ^ i :=
  mul_nonneg (Nat.cast_nonneg b) (pow_nonneg (by norm_num) i)

/-- The length of a pause in double precision, by what the steps to it are rounded to: the random part
    of a half, the factor, and its product with the doubled base. -/
theorem doubleDelay_eq {b i : Nat} (hi : i < 1024) (hb : b < 2 ^ 53)
    (hfull : b * 2 ^ i < 2 ^ 1024) {r random factor product : Rat}
    (hrandom : Number.nearest (r * (1 / 2)) = .finite random)
    (hfactor : Number.nearest (1 / 2 + random) = .finite factor)
    (hproduct : Number.nearest (b * 2 ^ i * factor) = .finite product) :
    doubleDelay (.finite b) (.finite i) (.finite r) =
      .finite (Number.roundHalfUp product : Int) := by
  have hpower : Number.twoToThe (.finite i) = .finite (2 ^ i) := by
    rw [← exactPower_eq i hi, exactPower, twoPow_floor]
  have hbase : Number.nearest (b * 2 ^ i) = .finite (b * 2 ^ i) :=
    Number.nearest_of_isOnGrid (isOnGrid_doubled hb i).1 (doubled_nonneg b i) (cast_lt_largest hfull)
  rw [doubleDelay, jitteredDelay, fullDelay, hpower, half_eq]
  -- each product and sum of finite numbers is rounded as soon as it is made
  show Number.round (Number.mulWith _ (Number.nearest (b * 2 ^ i))
    (Number.addWith _ (.finite (1 / 2)) (Number.nearest (r * (1 / 2))))) = _
  rw [hbase, hrandom]
  show Number.round (Number.mulWith _ _ (Number.nearest (1 / 2 + random))) = _
  rw [hfactor]
  show Number.round (Number.nearest (b * 2 ^ i * factor)) = _
  rw [hproduct]
  rfl

/-- In double precision too, a pause takes between half of the doubled base and all of it: these are
    values of double precision, which rounding does not get past. -/
theorem doubleDelay_bounds {b i : Nat} (hi : i < 1024) (hb : b < 2 ^ 53)
    (hfull : b * 2 ^ i < 2 ^ 1024) {r : Rat} (hr : 0 ≤ r) (hr' : r < 1) :
    ∃ length : Int, doubleDelay (.finite b) (.finite i) (.finite r) = .finite length ∧
      (b * 2 ^ i / 2 : Rat) ≤ length ∧ (length : Rat) ≤ b * 2 ^ i := by
  obtain ⟨hgrid, hgridHalf⟩ := isOnGrid_doubled hb i
  obtain ⟨hhalf, hone⟩ := isOnGrid_half_one
  have hnonneg := doubled_nonneg b i
  -- the random part, the factor and the product, one after the other
  obtain ⟨random, hrandom, hrandom₀, hrandom₁⟩ :=
    Number.exists_nearest_eq Number.isOnGrid_zero hhalf (le_refl 0)
      (q := r * (1 / 2)) (by linarith only [hr]) (by linarith only [hr'])
      (lt_trans (by norm_num) one_lt_largest)
  obtain ⟨factor, hfactor, hfactor₀, hfactor₁⟩ :=
    Number.exists_nearest_eq hhalf hone (by norm_num) (q := 1 / 2 + random)
      (by linarith only [hrandom₀]) (by linarith only [hrandom₁]) one_lt_largest
  have hproduct₀ : (b * 2 ^ i / 2 : Rat) ≤ b * 2 ^ i * factor := by
    have hscaled := mul_le_mul_of_nonneg_left hfactor₀ hnonneg
    linarith only [hscaled]
  have hproduct₁ : (b * 2 ^ i : Rat) * factor ≤ b * 2 ^ i := mul_le_of_le_one_right hnonneg hfactor₁
  obtain ⟨product, hproduct, hle, hge⟩ :=
    Number.exists_nearest_eq hgridHalf hgrid (by linarith only [hnonneg]) hproduct₀ hproduct₁
      (cast_lt_largest hfull)
  have hbounds := roundHalfUp_bounds (n := b * 2 ^ i) (q := product)
    (by push_cast; exact hle) (by push_cast; exact hge)
  push_cast at hbounds
  exact ⟨_, doubleDelay_eq hi hb hfull hrandom hfactor hproduct, hbounds⟩

/-- A base and a random number of so few binary digits that nothing is rounded on the way to a
    pause. -/
def HasFewDigits (b : Nat) (r : Rat) : Prop :=
  ∃ c a k : Nat, b < 2 ^ c ∧ k < 2 ^ a ∧ r = k / 2 ^ a ∧ c + a ≤ 52

/-- The steps to a pause are values of double precision, where the base and the random number have so
    few digits. -/
theorem HasFewDigits.isOnGrid {b : Nat} {r : Rat} (h : HasFewDigits b r) (i : Nat) :
    b < 2 ^ 53 ∧ (0 ≤ r ∧ r < 1) ∧ Number.IsOnGrid (r * (1 / 2)) ∧
      Number.IsOnGrid (1 / 2 + r * (1 / 2)) ∧
      Number.IsOnGrid (b * 2 ^ i * (1 / 2 + r * (1 / 2))) := by
  obtain ⟨c, a, k, hb, hk, rfl, hsum⟩ := h
  have hpos : (0 : Rat) < 2 ^ a := by positivity
  have hplace : (2 : Rat) ^ (-(a + 1 : Int)) = 1 / (2 ^ a * 2) := by
    rw [zpow_neg, zpow_add₀ (by norm_num), zpow_natCast, zpow_one, one_div]
  have hk' : 2 ^ a + k < 2 ^ (a + 1) := by rw [pow_succ]; omega
  refine ⟨hb.trans_le (Nat.pow_le_pow_right (by decide) (by omega)),
    ⟨by positivity, (div_lt_one hpos).2 (by exact_mod_cast hk)⟩,
    ⟨k, -(a + 1), ?_, ?_, ?_⟩, ⟨2 ^ a + k, -(a + 1), ?_, ?_, ?_⟩,
    ⟨b * (2 ^ a + k), i - (a + 1), ?_, ?_, ?_⟩⟩
  · exact hk.trans_le (Nat.pow_le_pow_right (by decide) (by show a ≤ 53; omega))
  · show (-1074 : Int) ≤ _
    omega
  · rw [hplace]
    field_simp
  · exact hk'.trans_le (Nat.pow_le_pow_right (by decide) (by show a + 1 ≤ 53; omega))
  · show (-1074 : Int) ≤ _
    omega
  · rw [hplace]
    push_cast
    field_simp
  · calc b * (2 ^ a + k) < 2 ^ c * 2 ^ (a + 1) :=
          Nat.mul_lt_mul_of_lt_of_le hb hk'.le (by positivity)
      _ = 2 ^ (c + (a + 1)) := (pow_add 2 c (a + 1)).symm
      _ ≤ 2 ^ Number.precision := Nat.pow_le_pow_right (by decide) (by show _ ≤ 53; omega)
  · show (-1074 : Int) ≤ _
    omega
  · have hsplit : (2 : Rat) ^ ((i : Int) - (a + 1)) = 2 ^ i * (1 / (2 ^ a * 2)) := by
      rw [sub_eq_add_neg, zpow_add₀ (by norm_num), zpow_natCast, hplace]
    rw [hsplit]
    push_cast
    field_simp

/-- Where nothing is rounded on the way, a pause in double precision is the one over the
    rationals. -/
theorem doubleDelay_eq_exactDelay {b i : Nat} (hi : i < 1024) (hfull : b * 2 ^ i < 2 ^ 1024) {r : Rat}
    (hdigits : HasFewDigits b r) :
    doubleDelay (.finite b) (.finite i) (.finite r) =
      exactDelay (.finite b) (.finite i) (.finite r) := by
  obtain ⟨hb, ⟨hr, hr'⟩, hrandom, hfactor, hproduct⟩ := hdigits.isOnGrid i
  have hnonneg := doubled_nonneg b i
  have hfactor₀ : (0 : Rat) ≤ 1 / 2 + r * (1 / 2) := by linarith only [hr]
  have hfactor₁ : 1 / 2 + r * (1 / 2) ≤ 1 := by linarith only [hr']
  have hproduct₁ : (b * 2 ^ i : Rat) * (1 / 2 + r * (1 / 2)) ≤ b * 2 ^ i :=
    mul_le_of_le_one_right hnonneg hfactor₁
  have hrandom' := Number.nearest_of_isOnGrid hrandom (by linarith only [hr])
    (lt_trans (by linarith only [hr']) one_lt_largest)
  have hfactor' := Number.nearest_of_isOnGrid hfactor hfactor₀ (hfactor₁.trans_lt one_lt_largest)
  have hproduct' := Number.nearest_of_isOnGrid hproduct (mul_nonneg hnonneg hfactor₀)
    (hproduct₁.trans_lt (cast_lt_largest hfull))
  rw [exactDelay_eq, pauseLength_eq]
  exact doubleDelay_eq hi hb hfull hrandom' hfactor' hproduct'

/-! ### The whole run -/

/-- As many calls are recorded as were made. -/
theorem count_call_recordOf {k : Nat} (hk : 1 ≤ k) :
    (recordOf delay p draw k).events.count .call = k := by
  have honce : ∀ done, (again delay p draw done).count .call = 1 := fun done => by
    simp [again]
  have hsum : ((List.range (k - 1)).map fun i => (again delay p draw i).count .call).sum = k - 1 :=
    by simp [honce]
  show List.count Event.call (.call :: (List.range (k - 1)).flatMap _) = k
  rw [List.count_cons_self, List.count_flatMap]
  show (List.map (fun i => (again delay p draw i).count .call) _).sum + 1 = k
  rw [hsum, Nat.sub_add_cancel hk]

/-- There is one pause between two calls. -/
theorem sleeps_recordOf (k : Nat) :
    (recordOf delay p draw k).events.filterMap Event.slept? =
      (List.range (k - 1)).map fun i : Nat => delay (.finite i) (draw i) := by
  show List.filterMap Event.slept? (.call :: (List.range (k - 1)).flatMap _) = _
  rw [List.filterMap_cons_none rfl, List.filterMap_flatMap]
  exact List.flatMap_pure_eq_map _ _

/-- **Calls and pauses.** A call that may be made `n` times is made up to the first outcome after
which it is not repeated, the last of these calls giving the outcome of the whole, with one pause
between two calls.  Over the rationals a pause takes between half of the doubled base and all of it.
In double precision the calls are the same, a pause keeps to these bounds as long as no number gets
too large, and it is the same where nothing is rounded on the way.  A call is not repeated after
client errors and after answers with a status that leaves no hope. -/
theorem calls_and_pauses (n b : Nat) (hn : 1 ≤ n) (outcome : Nat → Except Failure α)
    (draw : Nat → Rat) (hdraw : ∀ i, 0 ≤ draw i ∧ draw i < 1) :
    let p : Policy := { attempts := .finite n, baseDelay := .finite b }
    let draws : Nat → Number := fun i => .finite (draw i)
    let k := callCount n outcome
    let exact := recordOf (exactDelay p.baseDelay) p draws k
    (1 ≤ k ∧ k ≤ n ∧ (∀ i, i + 1 < k → isLast (outcome i) = false) ∧
      (k = n ∨ isLast (outcome (k - 1)) = true)) ∧
    (attempt (exactDelay p.baseDelay) p (scripted draws) (scriptedCall outcome) p.count 0).run {} =
      (outcome (k - 1), exact) ∧
    (run p (scripted draws) (scriptedCall outcome)).run {} =
      (outcome (k - 1), recordOf (doubleDelay p.baseDelay) p draws k) ∧
    exact.events.count .call = k ∧
    exact.events.filterMap Event.slept? =
      (List.range (k - 1)).map (fun i : Nat => .finite (pauseLength b i (draw i))) ∧
    (∀ i, (b * 2 ^ i / 2 : Rat) ≤ pauseLength b i (draw i) ∧
      (pauseLength b i (draw i) : Rat) ≤ b * 2 ^ i) ∧
    (∀ f : Failure, f.isWorthRetry = false ↔
      (∃ e, f = .client e) ∨ ∃ status, f.answer? = some status ∧ IsFinalStatus status) ∧
    (recordOf (doubleDelay p.baseDelay) p draws k).events.filterMap Event.slept? =
      (List.range (k - 1)).map (fun i : Nat => doubleDelay p.baseDelay (.finite i) (draws i)) ∧
    (∀ i : Nat, i < 1024 → b * 2 ^ i < 2 ^ 1024 →
      (b < 2 ^ 53 → ∃ length : Int,
        doubleDelay p.baseDelay (.finite i) (draws i) = .finite length ∧
          (b * 2 ^ i / 2 : Rat) ≤ length ∧ (length : Rat) ≤ b * 2 ^ i) ∧
      (HasFewDigits b (draw i) → doubleDelay p.baseDelay (.finite i) (draws i) =
        .finite (pauseLength b i (draw i)))) := by
  intro p draws k exact
  have hspec := callCount_spec hn outcome
  refine ⟨hspec, ?_, ?_, ?_, ?_, ?_, ?_, ?_, ?_⟩
  · exact run_scripted _ p draws hn rfl outcome
  · exact run_scripted _ p draws hn rfl outcome
  · exact count_call_recordOf _ p draws hspec.1
  · rw [sleeps_recordOf]
    apply List.map_congr_left
    intro i _
    exact exactDelay_eq b i (draw i)
  · intro i
    exact pauseLength_bounds b i (hdraw i).1 (hdraw i).2
  · exact isWorthRetry_eq_false_iff
  · exact sleeps_recordOf _ p draws k
  · intro i hi hfull
    obtain ⟨hr, hr'⟩ := hdraw i
    refine ⟨fun hb => doubleDelay_bounds hi hb hfull hr hr', fun hdigits => ?_⟩
    exact (doubleDelay_eq_exactDelay hi hfull hdigits).trans (exactDelay_eq b i (draw i))

/-- A call that fails twice for want of a ready daemon, and then succeeds. -/
def thirdCallSucceeds : Nat → Except Failure Nat
  | 0 => .error (.plain "socket hang up")
  | 1 => .error (.request ⟨true, "AxiosError", "m", some (some (.number 503))⟩)
  | _ => .ok 7

/-- The random numbers of its pauses. -/
def twoDraws : Nat → Rat
  | 0 => 0
  | _ => mkRat 1 2

/-- The third call gives the outcome, after pauses of 3/2 and 9/2 that are both rounded up. -/
theorem third_call_after_two_pauses :
    (∀ i, 0 ≤ twoDraws i ∧ twoDraws i < 1) ∧
    callCount 5 thirdCallSucceeds = 3 ∧
    ((run ⟨.finite 5, .finite 3⟩ (scripted fun i => .finite (twoDraws i))
      (scriptedCall thirdCallSucceeds)).run {}).1.toOption = some 7 ∧
    (recordOf (exactDelay (.finite 3)) ⟨.finite 5, .finite 3⟩ (fun i => .finite (twoDraws i))
      3).events.filterMap Event.slept? = [.finite 2, .finite 5] := by
  have hdraw : ∀ i, 0 ≤ twoDraws i ∧ twoDraws i < 1 := by
    rintro (_ | i)
    · decide +kernel
    · show 0 ≤ mkRat 1 2 ∧ mkRat 1 2 < 1
      decide +kernel
  have hcount : callCount 5 thirdCallSucceeds = 3 := by decide +kernel
  obtain ⟨-, -, hrun, -, hsleeps, -⟩ :=
    calls_and_pauses 5 3 (by decide) thirdCallSucceeds twoDraws hdraw
  rw [hcount] at hrun hsleeps
  refine ⟨hdraw, hcount, ?_, ?_⟩
  · have hrun' := congrArg (·.1.toOption) hrun
    exact hrun'
  · refine hsleeps.trans ?_
    decide +kernel

end Retry

end ImageBuild
