/-
This file settles which results have a value when numbers grow towards the end of the format. A result
is finite if the exact value stays more than half a grid step in front of the overflow bound, and next to
a number of the format it always does. So cutting off, filling up, a step of one, a divisor of at least
one and a difference of numbers that are not negative leave it to their operand whether the result is
finite.
-/

import Pooling.Proofs.WholeNumbers

namespace Pooling.Binary64

/-! ### The end of the format -/

/-- Half the distance of neighbours at the end of the format. -/
def endHalfStep : ℚ :=
  2 ^ (970 : ℤ)

theorem overflowBound_eq : overflowBound = 2 ^ 54 * endHalfStep := by
  rw [overflowBound, endHalfStep, ← zpow_natCast, ← zpow_add₀ two_ne_zero]
  norm_num

theorem one_lt_endHalfStep : 1 < endHalfStep :=
  one_lt_zpow₀ one_lt_two (by norm_num)

/-- The greatest number of the format is one grid step in front of the overflow bound. -/
theorem Representable.abs_le {q : ℚ} (representable : Representable q) :
    |q| ≤ (2 ^ 54 - 2) * endHalfStep := by
  obtain ⟨fixed, bounded⟩ := representable
  rw [abs_eq_abs, overflowBound_eq] at bounded
  have positive : 0 < endHalfStep := zero_lt_one.trans one_lt_endHalfStep
  obtain ⟨count, exponent, bits, -, equal⟩ := nearest_eq_significand q
  rw [fixed] at equal
  rcases le_or_gt exponent 970 with low | high
  · have bitsRational : |(count : ℚ)| ≤ 2 ^ 53 := by exact_mod_cast bits
    have power : (0 : ℚ) < 2 ^ exponent := zpow_pos two_pos exponent
    calc |q| = |(count : ℚ)| * 2 ^ exponent := by rw [equal, abs_mul, abs_of_pos power]
      _ ≤ 2 ^ 53 * endHalfStep := by
          gcongr
          exact zpow_le_zpow_right₀ one_le_two low
      _ ≤ (2 ^ 54 - 2) * endHalfStep := by
          gcongr
          norm_num
  · -- every grid this coarse is a part of the last one
    obtain ⟨multiple, onGrid⟩ := exists_multiple count (show (970 + 1 : ℤ) ≤ exponent from high)
    rw [zpow_add₀ two_ne_zero, zpow_one, ← equal] at onGrid
    change q = multiple * (endHalfStep * 2) at onGrid
    have magnitude : |q| = |(multiple : ℚ)| * 2 * endHalfStep := by
      rw [onGrid, abs_mul, abs_of_pos (mul_pos positive two_pos)]
      ring
    rw [magnitude] at bounded ⊢
    have fewer := lt_of_mul_lt_mul_right bounded positive.le
    have few : |multiple| < 2 ^ 53 := by
      have : |(multiple : ℚ)| < 2 ^ 53 := by linarith
      exact_mod_cast this
    have most : |(multiple : ℚ)| ≤ 2 ^ 53 - 1 := by exact_mod_cast Int.le_sub_one_of_lt few
    gcongr
    linarith

/-- What stays half a grid step in front of the overflow bound does not overflow. -/
theorem representable_nearest {q : ℚ} (below : |q| < (2 ^ 54 - 1) * endHalfStep) :
    Representable (nearest q) := by
  refine ⟨nearest_nearest q, ?_⟩
  have positive : 0 < endHalfStep := zero_lt_one.trans one_lt_endHalfStep
  rw [abs_eq_abs, overflowBound_eq]
  rcases eq_or_ne q 0 with rfl | nonzero
  · rw [representable_zero.1, abs_zero]
    positivity
  obtain ⟨low, -⟩ := binaryExponent_spec nonzero
  have exponent : binaryExponent q < 1024 := by
    have bounded : |q| < overflowBound := by
      rw [overflowBound_eq]
      linarith
    exact (zpow_lt_zpow_iff_right₀ one_lt_two).mp (low.trans_lt bounded)
  have fine : step q ≤ endHalfStep * 2 := by
    rw [step, endHalfStep, ← zpow_add_one₀ two_ne_zero]
    refine zpow_le_zpow_right₀ one_le_two ?_
    unfold stepExponent
    omega
  have moved := abs_sub_abs_le_abs_sub (nearest q) q
  have error := nearest_error q
  linarith

/-- Next to a number of the format nothing overflows. -/
theorem Representable.nearest_of_le {p q : ℚ} (representable : Representable p)
    (near : |q| ≤ |p| + 1) : Representable (nearest q) := by
  refine representable_nearest ?_
  have most := representable.abs_le
  have room := one_lt_endHalfStep
  linarith

theorem nearest_nonpos {q : ℚ} (nonpositive : q ≤ 0) : nearest q ≤ 0 := by
  have scaled : roundHalfEven (q / step q) ≤ 0 := by
    refine roundHalfEven_le ?_
    rw [Int.cast_zero]
    exact div_nonpos_of_nonpos_of_nonneg nonpositive (step_pos q).le
  exact mul_nonpos_of_nonpos_of_nonneg (by exact_mod_cast scaled) (step_pos q).le

/-- Rounding does not carry a number past one of the format that is not negative. -/
theorem nearest_le {p q : ℚ} (nonnegative : 0 ≤ q) (fixed : nearest q = q) (ordered : p ≤ q) :
    nearest p ≤ q := by
  rcases le_total p 0 with low | high
  · exact (nearest_nonpos low).trans nonnegative
  · exact nearest_le_of_fixed high ordered fixed

theorem nearest_two_zpow {exponent : ℤ} (fine : -1074 ≤ exponent) :
    nearest (2 ^ exponent) = 2 ^ exponent := by
  have equal := @nearest_of_significand 1 exponent (by norm_num) fine
  rwa [Int.cast_one, one_mul] at equal

theorem representable_two_zpow {exponent : ℤ} (fine : -1074 ≤ exponent) (below : exponent < 1024) :
    Representable (2 ^ exponent) := by
  refine ⟨nearest_two_zpow fine, ?_⟩
  rw [abs_eq_abs, abs_of_pos (zpow_pos two_pos _), overflowBound]
  exact zpow_lt_zpow_right₀ one_lt_two below

theorem nearest_one : nearest 1 = 1 := by
  have equal := nearest_two_zpow (show (-1074 : ℤ) ≤ 0 by norm_num)
  rwa [zpow_zero] at equal

/-- From one on, rounding neither halves nor doubles a number. -/
theorem nearest_bounds {q : ℚ} (atLeastOne : 1 ≤ q) : q / 2 ≤ nearest q ∧ nearest q ≤ 2 * q := by
  have magnitude : |q| = q := abs_of_nonneg (zero_le_one.trans atLeastOne)
  have normal : (2 : ℚ) ^ (-1022 : ℤ) ≤ |q| := by
    rw [magnitude]
    exact (zpow_le_one_of_nonpos₀ one_le_two (by norm_num)).trans atLeastOne
  obtain ⟨low, high⟩ := abs_le.mp (nearest_relative_error normal)
  rw [magnitude] at low high
  constructor <;> linarith

/-- What is above half the finest grid step does not vanish. -/
theorem nearest_pos {q : ℚ} (above : (2 : ℚ) ^ (-1075 : ℤ) < q) : 0 < nearest q := by
  have positive : 0 < q := (zpow_pos two_pos _).trans above
  refine (nearest_nonneg positive.le).lt_of_ne fun vanishes => ?_
  have error := nearest_error q
  rw [← vanishes, zero_sub, abs_neg, abs_of_pos positive] at error
  obtain ⟨low, -⟩ := binaryExponent_spec positive.ne'
  rw [abs_of_pos positive] at low
  have half : step q / 2 = 2 ^ (stepExponent q - 1) := by
    rw [step, zpow_sub_one₀ two_ne_zero]
    rfl
  rw [half] at error
  rcases max_choice (binaryExponent q - 52) (-1074) with coarse | finest
  · have less : (2 : ℚ) ^ (stepExponent q - 1) < 2 ^ binaryExponent q := by
      refine zpow_lt_zpow_right₀ one_lt_two ?_
      unfold stepExponent
      omega
    linarith
  · rw [show stepExponent q - 1 = -1075 by unfold stepExponent; omega] at error
    linarith

/-- A quotient of at least one by a number of the format does not vanish, for even the least one over the
greatest is more than half the finest grid step. -/
theorem nearest_div_pos {p q : ℚ} (atLeastOne : 1 ≤ p) (positive : 0 < q)
    (representable : Representable q) : 0 < nearest (p / q) := by
  refine nearest_pos ?_
  have bounded := representable.2
  rw [abs_eq_abs, abs_of_pos positive, overflowBound] at bounded
  rw [lt_div_iff₀ positive]
  calc (2 : ℚ) ^ (-1075 : ℤ) * q ≤ 2 ^ (-1075 : ℤ) * 2 ^ (1024 : ℤ) := by gcongr
    _ < 1 := by
        rw [← zpow_add₀ two_ne_zero]
        exact zpow_lt_one_of_neg₀ one_lt_two (by norm_num)
    _ ≤ p := atLeastOne

/-! ### Rounded results -/

/-- The number is `q` brought to the format. Beyond the format that is an infinity. -/
def Rounds (x : Binary64) (q : ℚ) : Prop :=
  if Representable (nearest q) then x.toRat? = some (nearest q) else x = infinity (q < 0)

section Results

variable {x y : Binary64} {p q : ℚ}

theorem representable_of_toRat? (value : x.toRat? = some p) : Representable p := by
  rcases eq_of_toRat? value with ⟨-, rfl⟩ | ⟨representable, -⟩
  · exact representable_zero
  · exact representable

theorem rounds_self (value : x.toRat? = some p) : x.Rounds p := by
  have representable := representable_of_toRat? value
  have fixed := representable.1
  rw [Rounds, if_pos (by rwa [fixed]), fixed]
  exact value

theorem rounds_round (negative : Bool) (q : ℚ) : (round negative q).Rounds q := by
  rw [Rounds]
  split
  · rename_i representable
    exact toRat?_round representable
  · rename_i beyond
    rw [round, dif_neg beyond]

theorem rounds_add (first : x.toRat? = some p) (second : y.toRat? = some q) :
    (x + y).Rounds (p + q) := by
  change (x.add y).Rounds (p + q)
  rcases eq_of_toRat? first with ⟨rfl, rfl⟩ | ⟨firstRepresentable, rfl⟩
  · rw [zero_add]
    have same : negativeZero.add y = y := by
      rcases eq_of_toRat? second with ⟨rfl, -⟩ | ⟨secondRepresentable, rfl⟩ <;> rfl
    rw [same]
    exact rounds_self second
  · rcases eq_of_toRat? second with ⟨rfl, rfl⟩ | ⟨secondRepresentable, rfl⟩
    · rw [add_zero]
      exact rounds_self first
    · exact rounds_round _ _

theorem rounds_sub (first : x.toRat? = some p) (second : y.toRat? = some q) :
    (x - y).Rounds (p - q) := by
  rw [sub_eq_add_neg]
  exact rounds_add first (toRat?_neg second)

theorem rounds_mul (first : x.toRat? = some p) (second : y.toRat? = some q) :
    (x * y).Rounds (p * q) := by
  change (x.mul y).Rounds (p * q)
  rcases eq_of_toRat? first with ⟨rfl, rfl⟩ | ⟨firstRepresentable, rfl⟩
  · rw [zero_mul]
    refine rounds_self ?_
    rcases eq_of_toRat? second with ⟨rfl, -⟩ | ⟨secondRepresentable, rfl⟩ <;>
      exact toRat?_signedZero _
  · rcases eq_of_toRat? second with ⟨rfl, rfl⟩ | ⟨secondRepresentable, rfl⟩
    · rw [mul_zero]
      exact rounds_self (toRat?_signedZero _)
    · exact rounds_round _ _

theorem rounds_div (first : x.toRat? = some p) (second : y.toRat? = some q) (nonzero : q ≠ 0) :
    (x / y).Rounds (p / q) := by
  rw [div_eq_round first second nonzero]
  exact rounds_round _ _

theorem rounds_floor (value : x.toRat? = some p) : x.floor.Rounds ⌊p⌋ := by
  rcases eq_of_toRat? value with ⟨rfl, rfl⟩ | ⟨representable, rfl⟩
  · rw [Int.floor_zero, Int.cast_zero]
    exact rounds_self rfl
  · exact rounds_round _ _

theorem rounds_ceil (value : x.toRat? = some p) : x.ceil.Rounds ⌈p⌉ := by
  rcases eq_of_toRat? value with ⟨rfl, rfl⟩ | ⟨representable, rfl⟩
  · rw [Int.ceil_zero, Int.cast_zero]
    exact rounds_self rfl
  · rw [← ceil_eq_ceil]
    exact rounds_round _ _

namespace Rounds

/-- Next to a number of the format the result has a value. -/
theorem toRat?_of_le (rounds : x.Rounds q) (representable : Representable p)
    (near : |q| ≤ |p| + 1) : x.toRat? = some (nearest q) := by
  rwa [Rounds, if_pos (representable.nearest_of_le near)] at rounds

theorem eq_nearest {r : ℚ} (rounds : x.Rounds q) (value : x.toRat? = some r) : r = nearest q := by
  rw [Rounds] at rounds
  split at rounds
  · exact Option.some_inj.mp (value.symm.trans rounds)
  · rw [rounds] at value
    cases value

/-- What is rounded up from zero is the positive infinity, or it has a value that is not negative. -/
theorem cases_of_nonneg (rounds : x.Rounds q) (nonnegative : 0 ≤ q) :
    x = infinity false ∨ ∃ r, 0 ≤ r ∧ x.toRat? = some r := by
  rw [Rounds] at rounds
  split at rounds
  · exact Or.inr ⟨nearest q, nearest_nonneg nonnegative, rounds⟩
  · rw [decide_eq_false nonnegative.not_gt] at rounds
    exact Or.inl rounds

/-- A difference of numbers that are not negative does not overflow. -/
theorem isFinite_of_difference (rounds : x.Rounds (p - q)) (minuend : Representable p)
    (subtrahend : Representable q) (minuendNonneg : 0 ≤ p) (subtrahendNonneg : 0 ≤ q) :
    x.IsFinite := by
  rcases le_total q p with small | great
  · refine ⟨_, rounds.toRat?_of_le minuend ?_⟩
    rw [abs_of_nonneg (sub_nonneg.mpr small), abs_of_nonneg minuendNonneg]
    linarith
  · refine ⟨_, rounds.toRat?_of_le subtrahend ?_⟩
    rw [abs_of_nonpos (sub_nonpos.mpr great), abs_of_nonneg subtrahendNonneg]
    linarith

end Rounds

end Results

/-! ### Finite results -/

/-- The number is not negative if it has a value. -/
def IsNonneg (x : Binary64) : Prop :=
  ∀ q, x.toRat? = some q → 0 ≤ q

section Finite

variable {x y : Binary64} {q : ℚ}

theorem not_isFinite_infinity (negative : Bool) : ¬ (infinity negative).IsFinite := by
  rintro ⟨q, value⟩
  cases value

theorem abs_floor_le_abs_add_one (q : ℚ) : |(⌊q⌋ : ℚ)| ≤ |q| + 1 := by
  have below := Int.floor_le q
  have above := Int.lt_floor_add_one q
  have bounds := abs_le.mp (le_refl |q|)
  exact abs_le.mpr ⟨by linarith, by linarith⟩

theorem abs_ceil_le_abs_add_one (q : ℚ) : |(⌈q⌉ : ℚ)| ≤ |q| + 1 := by
  have bound := abs_floor_le_abs_add_one (-q)
  rwa [Int.floor_neg, Int.cast_neg, abs_neg, abs_neg] at bound

theorem isFinite_floor_iff : x.floor.IsFinite ↔ x.IsFinite := by
  constructor
  · rintro ⟨r, value⟩
    obtain ⟨p, found, -⟩ := exists_of_toRat?_floor value
    exact ⟨p, found⟩
  · rintro ⟨p, value⟩
    exact ⟨_, (rounds_floor value).toRat?_of_le (representable_of_toRat? value)
      (abs_floor_le_abs_add_one p)⟩

theorem isFinite_ceil_iff : x.ceil.IsFinite ↔ x.IsFinite := by
  constructor
  · rintro ⟨r, value⟩
    obtain ⟨p, found, -⟩ := exists_of_toRat?_ceil value
    exact ⟨p, found⟩
  · rintro ⟨p, value⟩
    exact ⟨_, (rounds_ceil value).toRat?_of_le (representable_of_toRat? value)
      (abs_ceil_le_abs_add_one p)⟩

/-- A divisor of at least one does not make a number infinite. -/
theorem isFinite_div_iff (divisor : y.toRat? = some q) (atLeastOne : 1 ≤ q) :
    (x / y).IsFinite ↔ x.IsFinite := by
  have nonzero : q ≠ 0 := (zero_lt_one.trans_le atLeastOne).ne'
  constructor
  · rintro ⟨r, value⟩
    obtain ⟨p, found, -⟩ := exists_of_toRat?_div divisor nonzero value
    exact ⟨p, found⟩
  · rintro ⟨p, value⟩
    refine ⟨_, (rounds_div value divisor nonzero).toRat?_of_le (representable_of_toRat? value) ?_⟩
    rw [abs_div, abs_of_pos (zero_lt_one.trans_le atLeastOne)]
    exact (div_le_self (abs_nonneg p) atLeastOne).trans (le_add_of_nonneg_right zero_le_one)

/-- A summand of at most one does not make a number infinite. -/
theorem isFinite_add_iff_of_small (summand : y.toRat? = some q) (small : |q| ≤ 1) :
    (x + y).IsFinite ↔ x.IsFinite := by
  constructor
  · rintro ⟨r, value⟩
    obtain ⟨p, -, found, -, -⟩ := exists_of_toRat?_add value
    exact ⟨p, found⟩
  · rintro ⟨p, value⟩
    refine ⟨_, (rounds_add value summand).toRat?_of_le (representable_of_toRat? value) ?_⟩
    exact (abs_add_le p q).trans (add_le_add_right small |p|)

theorem isFinite_add_one_iff : (x + 1).IsFinite ↔ x.IsFinite :=
  isFinite_add_iff_of_small holds_one (by norm_num)

theorem isFinite_sub_one_iff : (x - 1).IsFinite ↔ x.IsFinite :=
  isFinite_add_iff_of_small (toRat?_neg holds_one) (by norm_num)

/-- What is not negative and taken off does not make a number infinite that is not negative either. -/
theorem isFinite_sub_iff (minuend : x.IsNonneg) (subtrahend : y.toRat? = some q)
    (nonnegative : 0 ≤ q) : (x - y).IsFinite ↔ x.IsFinite := by
  constructor
  · rintro ⟨r, value⟩
    obtain ⟨p, -, found, -, -⟩ := exists_of_toRat?_sub value
    exact ⟨p, found⟩
  · rintro ⟨p, value⟩
    exact (rounds_sub value subtrahend).isFinite_of_difference (representable_of_toRat? value)
      (representable_of_toRat? subtrahend) (minuend p value) nonnegative

theorem isFinite_maximum_zero (finite : x.IsFinite) : (x.maximum 0).IsFinite := by
  obtain ⟨p, value⟩ := finite
  unfold maximum
  rw [decide_eq_false (ne_nan value), decide_eq_false (ne_nan holds_zero), Bool.or_self,
    if_neg Bool.false_ne_true]
  split
  · exact ⟨_, holds_zero⟩
  split
  · exact ⟨_, value⟩
  split
  · exact ⟨_, holds_zero⟩
  · exact ⟨_, value⟩

theorem infinity_add (negative : Bool) (finite : y.IsFinite) :
    infinity negative + y = infinity negative := by
  obtain ⟨p, value⟩ := finite
  rcases eq_of_toRat? value with ⟨rfl, -⟩ | ⟨representable, rfl⟩ <;> rfl

theorem infinity_sub (negative : Bool) (finite : y.IsFinite) :
    infinity negative - y = infinity negative := by
  obtain ⟨p, value⟩ := finite
  exact infinity_add negative ⟨_, toRat?_neg value⟩

theorem infinity_maximum_zero : (infinity false).maximum 0 = infinity false := by
  decide +kernel

theorem Rounds.isNonneg (rounds : x.Rounds q) (nonnegative : 0 ≤ q) : x.IsNonneg :=
  fun _ value => rounds.eq_nearest value ▸ nearest_nonneg nonnegative

namespace IsNonneg

theorem add (first : x.IsNonneg) (second : y.IsNonneg) : (x + y).IsNonneg := by
  intro r value
  obtain ⟨p, q, firstValue, secondValue, rounded⟩ := exists_of_toRat?_add value
  exact rounded ▸ nearest_nonneg (add_nonneg (first p firstValue) (second q secondValue))

theorem div (dividend : x.IsNonneg) (divisor : y.toRat? = some q) (positive : 0 < q) :
    (x / y).IsNonneg := by
  intro r value
  obtain ⟨p, dividendValue, rounded⟩ := exists_of_toRat?_div divisor positive.ne' value
  exact rounded ▸ nearest_nonneg (div_nonneg (dividend p dividendValue) positive.le)

theorem floor (nonnegative : x.IsNonneg) : x.floor.IsNonneg := by
  intro r value
  obtain ⟨p, found, rounded⟩ := exists_of_toRat?_floor value
  exact rounded ▸ nearest_nonneg (by exact_mod_cast Int.floor_nonneg.mpr (nonnegative p found))

theorem ceil (nonnegative : x.IsNonneg) : x.ceil.IsNonneg := by
  intro r value
  obtain ⟨p, found, rounded⟩ := exists_of_toRat?_ceil value
  exact rounded ▸ nearest_nonneg (by exact_mod_cast Int.ceil_nonneg (nonnegative p found))

end IsNonneg

/-- Up to a power of two of the format nothing overflows. -/
theorem Rounds.isFinite_of_le_power (rounds : x.Rounds q) (exponent : ℕ) (nonnegative : 0 ≤ q)
    (bounded : q ≤ 2 ^ (exponent : ℤ)) (below : exponent < 1024) : x.IsFinite := by
  have representable : Representable (2 ^ (exponent : ℤ)) :=
    representable_two_zpow (by omega) (by omega)
  refine ⟨_, rounds.toRat?_of_le representable ?_⟩
  rw [abs_of_nonneg nonnegative, abs_of_pos (zpow_pos two_pos _)]
  exact bounded.trans (le_add_of_nonneg_right zero_le_one)

/-- The number is at most the power of two if it has a value. -/
def AtMostPower (x : Binary64) (exponent : ℕ) : Prop :=
  ∀ q, x.toRat? = some q → q ≤ 2 ^ (exponent : ℤ)

namespace AtMostPower

variable {exponent : ℕ}

theorem mono (bounded : x.AtMostPower exponent) {greater : ℕ} (ordered : exponent ≤ greater) :
    x.AtMostPower greater := fun q value =>
  (bounded q value).trans (zpow_le_zpow_right₀ one_le_two (by exact_mod_cast ordered))

/-- A number stays below a power of two when it is rounded. -/
theorem of_nearest (each : ∀ r, x.toRat? = some r → ∃ q, r = nearest q ∧ q ≤ 2 ^ (exponent : ℤ)) :
    x.AtMostPower exponent := by
  intro r value
  obtain ⟨q, rfl, bounded⟩ := each r value
  exact nearest_le (zpow_pos two_pos _).le (nearest_two_zpow (by omega)) bounded

/-- The sum of two numbers is at most the next power of two. -/
theorem add (first : x.AtMostPower exponent) (second : y.AtMostPower exponent) :
    (x + y).AtMostPower (exponent + 1) := by
  refine of_nearest fun r value => ?_
  obtain ⟨p, q, firstValue, secondValue, rounded⟩ := exists_of_toRat?_add value
  refine ⟨p + q, rounded, ?_⟩
  rw [Nat.cast_succ, zpow_add_one₀ two_ne_zero]
  have firstLe := first p firstValue
  have secondLe := second q secondValue
  linarith

theorem sub (minuend : x.AtMostPower exponent) (subtrahend : y.IsNonneg) :
    (x - y).AtMostPower exponent := by
  refine of_nearest fun r value => ?_
  obtain ⟨p, q, minuendValue, subtrahendValue, rounded⟩ := exists_of_toRat?_sub value
  have minuendLe := minuend p minuendValue
  have subtrahendNonneg := subtrahend q subtrahendValue
  exact ⟨p - q, rounded, by linarith⟩

theorem half (dividend : x.AtMostPower exponent) : (x / 2).AtMostPower exponent := by
  refine of_nearest fun r value => ?_
  obtain ⟨p, dividendValue, rounded⟩ := exists_of_toRat?_div holds_two two_ne_zero value
  have dividendLe := dividend p dividendValue
  have positive : (0 : ℚ) < 2 ^ (exponent : ℤ) := zpow_pos two_pos _
  exact ⟨_, rounded, by push_cast; linarith⟩

theorem floor (bounded : x.AtMostPower exponent) : x.floor.AtMostPower exponent := by
  refine of_nearest fun r value => ?_
  obtain ⟨p, found, rounded⟩ := exists_of_toRat?_floor value
  exact ⟨_, rounded, (Int.floor_le p).trans (bounded p found)⟩

theorem ceil (bounded : x.AtMostPower exponent) : x.ceil.AtMostPower exponent := by
  refine of_nearest fun r value => ?_
  obtain ⟨p, found, rounded⟩ := exists_of_toRat?_ceil value
  refine ⟨_, rounded, ?_⟩
  have high := bounded p found
  rw [zpow_natCast] at high ⊢
  have whole : ⌈p⌉ ≤ (2 ^ exponent : ℤ) := Int.ceil_le.mpr (by exact_mod_cast high)
  exact_mod_cast whole

theorem maximum_zero (bounded : x.AtMostPower exponent) : (x.maximum 0).AtMostPower exponent := by
  intro r value
  rcases maximum_zero_cases x with unknown | zero | ⟨same, -⟩
  · rw [unknown] at value
    cases value
  · rw [zero] at value
    obtain rfl : r = 0 := Option.some_inj.mp (value.symm.trans holds_zero)
    exact (zpow_pos two_pos _).le
  · rw [same] at value
    exact bounded r value

theorem of_rounds (rounds : x.Rounds q) (bounded : q ≤ 2 ^ (exponent : ℤ)) :
    x.AtMostPower exponent :=
  of_nearest fun _ value => ⟨q, rounds.eq_nearest value, bounded⟩

/-- Far enough from the end of the format, a sum of numbers that are not negative is finite. -/
theorem isFinite_add (first : x.AtMostPower exponent) (second : y.AtMostPower exponent)
    (far : exponent < 1023) (firstNonneg : x.IsNonneg) (secondNonneg : y.IsNonneg)
    (firstFinite : x.IsFinite) (secondFinite : y.IsFinite) : (x + y).IsFinite := by
  obtain ⟨p, firstValue⟩ := firstFinite
  obtain ⟨q, secondValue⟩ := secondFinite
  refine (rounds_add firstValue secondValue).isFinite_of_le_power (exponent + 1) ?_ ?_ (by omega)
  · exact add_nonneg (firstNonneg p firstValue) (secondNonneg q secondValue)
  · have firstLe := first p firstValue
    have secondLe := second q secondValue
    rw [Nat.cast_succ, zpow_add_one₀ two_ne_zero]
    linarith

end AtMostPower

namespace IsWhole

theorem floor (x : Binary64) : x.floor.IsWhole := by
  refine of_nearest fun q value => ?_
  obtain ⟨p, -, rounded⟩ := exists_of_toRat?_floor value
  exact ⟨_, rounded⟩

theorem isFinite_iff (whole : x.IsWhole) : x.IsFinite ↔ ∃ n : ℤ, x.Holds n := by
  constructor
  · rintro ⟨q, value⟩
    obtain ⟨n, rfl⟩ := whole q value
    exact ⟨n, value⟩
  · rintro ⟨n, held⟩
    exact ⟨n, held⟩

end IsWhole

/-- The number is a whole number that is not negative. -/
def IsCount (x : Binary64) : Prop :=
  ∃ n : ℤ, 0 ≤ n ∧ x.Holds n

theorem IsCount.isFinite (count : x.IsCount) : x.IsFinite := by
  obtain ⟨n, -, held⟩ := count
  exact ⟨n, held⟩

theorem Holds.isNonneg {n : ℤ} (held : x.Holds n) (nonnegative : 0 ≤ n) : x.IsNonneg := by
  intro q value
  rw [← Option.some_inj.mp (held.symm.trans value)]
  exact_mod_cast nonnegative

theorem Holds.atMostPower {n : ℤ} {exponent : ℕ} (held : x.Holds n) (bounded : n ≤ 2 ^ exponent) :
    x.AtMostPower exponent := by
  intro q value
  rw [← Option.some_inj.mp (held.symm.trans value), zpow_natCast]
  exact_mod_cast bounded

end Finite

end Pooling.Binary64
