/-
This file settles what rounding does to whole numbers and to their quotients. The numbers of the format
are the multiples `k * 2 ^ m` with `|k| ≤ 2 ^ 53` and `-1074 ≤ m` below the overflow bound: rounding
leaves each of them alone and brings every other rational to one of them. Two consequences carry the
window arithmetic. A whole number up to `2 ^ 53` is held exactly, and the quotient of two whole numbers
below that bound is rounded by less than one part of its divisor, so that it never reaches or crosses a
whole number it was not already at.
-/

import Mathlib.Data.Rat.Floor
import Mathlib.Tactic
import Pooling.Binary64.Rounding

namespace Pooling.Binary64

/-! ### Whole numbers from rationals -/

theorem abs_eq_abs (q : ℚ) : q.abs = |q| := by
  unfold Rat.abs
  split
  · rename_i nonnegative
    exact (abs_of_nonneg nonnegative).symm
  · rename_i negative
    exact (abs_of_neg (not_le.mp negative)).symm

theorem floor_eq_floor (q : ℚ) : q.floor = ⌊q⌋ := rfl

theorem ceil_eq_ceil (q : ℚ) : q.ceil = ⌈q⌉ := by
  refine le_antisymm ?_ ?_
  · exact Rat.ceil_le_iff.mpr (Int.le_ceil q)
  · exact Int.ceil_le.mpr Rat.le_ceil

theorem roundHalfEven_intCast (n : ℤ) : roundHalfEven n = n := by
  unfold roundHalfEven
  dsimp only
  rw [Rat.floor_intCast, sub_self, if_pos (by norm_num)]

theorem roundHalfEven_error (q : ℚ) : |(roundHalfEven q : ℚ) - q| ≤ 1 / 2 := by
  have below : (⌊q⌋ : ℚ) ≤ q := Int.floor_le q
  have above : q < ⌊q⌋ + 1 := Int.lt_floor_add_one q
  rw [abs_le]
  unfold roundHalfEven
  dsimp only
  rw [floor_eq_floor]
  split
  · constructor <;> linarith
  split
  · push_cast
    constructor <;> linarith
  split
  · constructor <;> linarith
  · push_cast
    constructor <;> linarith

theorem roundHalfEven_le {q : ℚ} {bound : ℤ} (bounded : q ≤ bound) : roundHalfEven q ≤ bound := by
  obtain ⟨-, above⟩ := abs_le.mp (roundHalfEven_error q)
  have : (roundHalfEven q : ℚ) < (bound + 1 : ℤ) := by push_cast; linarith
  exact Int.le_of_lt_add_one (by exact_mod_cast this)

/-- Rounding to a whole number stays between whole bounds. -/
theorem abs_roundHalfEven_le {q : ℚ} {bound : ℤ} (bounded : |q| ≤ bound) :
    |roundHalfEven q| ≤ bound := by
  have error := abs_le.mp (roundHalfEven_error q)
  obtain ⟨lower, upper⟩ := abs_le.mp bounded
  refine abs_le.mpr ⟨?_, roundHalfEven_le upper⟩
  have : ((-bound - 1 : ℤ) : ℚ) < roundHalfEven q := by push_cast; linarith
  exact Int.le_of_sub_one_lt (by exact_mod_cast this)

theorem roundHalfEven_nonneg {q : ℚ} (nonnegative : 0 ≤ q) : 0 ≤ roundHalfEven q := by
  have error := abs_le.mp (roundHalfEven_error q)
  have : ((-1 : ℤ) : ℚ) < roundHalfEven q := by push_cast; linarith
  exact Int.le_of_sub_one_lt (by exact_mod_cast this)

/-! ### The grid -/

/-- A positive natural number lies between the powers of two that its bit length names. -/
theorem log2_bounds {n : ℕ} (nonzero : n ≠ 0) :
    (2 : ℚ) ^ (n.log2 : ℤ) ≤ n ∧ (n : ℚ) < 2 ^ ((n.log2 : ℤ) + 1) := by
  constructor
  · rw [zpow_natCast]
    exact_mod_cast Nat.log2_self_le nonzero
  · rw [show ((n.log2 : ℤ) + 1) = ((n.log2 + 1 : ℕ) : ℤ) by push_cast; ring, zpow_natCast]
    exact_mod_cast Nat.lt_log2_self

/-- The binary exponent is that of the greatest power of two that is at most the magnitude. -/
theorem binaryExponent_spec {q : ℚ} (nonzero : q ≠ 0) :
    (2 : ℚ) ^ binaryExponent q ≤ |q| ∧ |q| < 2 ^ (binaryExponent q + 1) := by
  obtain ⟨numeratorLow, numeratorHigh⟩ :=
    log2_bounds (Int.natAbs_ne_zero.mpr (Rat.num_ne_zero.mpr nonzero))
  obtain ⟨denominatorLow, denominatorHigh⟩ := log2_bounds q.den_nz
  have positive : (0 : ℚ) < q.den := by exact_mod_cast q.den_pos
  have quotient : |q| = (q.num.natAbs : ℚ) / q.den := by
    rw [Nat.cast_natAbs, Int.cast_abs]
    conv_lhs => rw [← Rat.num_div_den q]
    rw [abs_div, abs_of_pos positive]
  generalize highEq : (q.num.natAbs.log2 : ℤ) = high at *
  generalize lowEq : (q.den.log2 : ℤ) = low at *
  have upper : |q| < 2 ^ (high - low + 1) := by
    rw [quotient, div_lt_iff₀ positive]
    calc (q.num.natAbs : ℚ) < 2 ^ (high + 1) := numeratorHigh
      _ = 2 ^ (high - low + 1) * 2 ^ low := by rw [← zpow_add₀ two_ne_zero]; ring_nf
      _ ≤ 2 ^ (high - low + 1) * q.den := by gcongr
  have lower : 2 ^ (high - low - 1) ≤ |q| := by
    rw [quotient, le_div_iff₀ positive]
    calc (2 : ℚ) ^ (high - low - 1) * q.den ≤ 2 ^ (high - low - 1) * 2 ^ (low + 1) := by gcongr
      _ = 2 ^ high := by rw [← zpow_add₀ two_ne_zero]; ring_nf
      _ ≤ q.num.natAbs := numeratorLow
  unfold binaryExponent
  dsimp only
  rw [highEq, lowEq, abs_eq_abs]
  split
  · rename_i reached
    exact ⟨reached, upper⟩
  · rename_i missed
    refine ⟨lower, ?_⟩
    rw [sub_add_cancel]
    exact not_le.mp missed

theorem step_pos (q : ℚ) : 0 < step q :=
  zpow_pos two_pos _

theorem nearest_nonneg {q : ℚ} (nonnegative : 0 ≤ q) : 0 ≤ nearest q := by
  have scaled : 0 ≤ roundHalfEven (q / step q) :=
    roundHalfEven_nonneg (div_nonneg nonnegative (step_pos q).le)
  exact mul_nonneg (by exact_mod_cast scaled) (step_pos q).le

/-- Rounding moves a number by at most half a grid step. -/
theorem nearest_error (q : ℚ) : |nearest q - q| ≤ step q / 2 := by
  have positive := step_pos q
  have scaled : nearest q - q = (roundHalfEven (q / step q) - q / step q) * step q := by
    unfold nearest
    field_simp
  rw [scaled, abs_mul, abs_of_pos positive]
  calc |(roundHalfEven (q / step q) : ℚ) - q / step q| * step q ≤ 1 / 2 * step q := by
        gcongr
        exact roundHalfEven_error _
    _ = step q / 2 := by ring

/-- A multiple of its own grid step is on the grid. -/
theorem nearest_of_multiple {q : ℚ} (count : ℤ) (multiple : q = count * step q) : nearest q = q := by
  have counted : q / step q = count := by
    rw [div_eq_iff (step_pos q).ne']
    exact multiple
  rw [nearest, counted, roundHalfEven_intCast]
  exact multiple.symm

/-- A multiple of a power of two is a multiple of every smaller one. -/
theorem exists_multiple (count : ℤ) {coarse fine : ℤ} (ordered : fine ≤ coarse) :
    ∃ finer : ℤ, (count : ℚ) * 2 ^ coarse = finer * 2 ^ fine := by
  refine ⟨count * 2 ^ (coarse - fine).toNat, ?_⟩
  have difference : ((coarse - fine).toNat : ℤ) = coarse - fine := Int.toNat_of_nonneg (by omega)
  push_cast
  rw [← zpow_natCast, difference, mul_assoc, ← zpow_add₀ two_ne_zero, sub_add_cancel]

/-- The binary exponent of a number with at most 53 significant bits has a bound, which only a power of two
reaches. -/
theorem binaryExponent_of_significand {count : ℤ} (exponent : ℤ) (nonzero : count ≠ 0)
    (bits : |count| ≤ 2 ^ 53) :
    binaryExponent (count * 2 ^ exponent) < 53 + exponent ∨
      binaryExponent (count * 2 ^ exponent) = 53 + exponent ∧ |count| = 2 ^ 53 := by
  have positive : (0 : ℚ) < 2 ^ exponent := zpow_pos two_pos _
  have magnitude : |(count * 2 ^ exponent : ℚ)| = |(count : ℚ)| * 2 ^ exponent := by
    rw [abs_mul, abs_of_pos positive]
  have bitsRational : |(count : ℚ)| ≤ 2 ^ (53 : ℤ) := by exact_mod_cast bits
  obtain ⟨low, -⟩ := binaryExponent_spec (mul_ne_zero (Int.cast_ne_zero.mpr nonzero) positive.ne')
  rw [magnitude] at low
  have bound : |(count : ℚ)| * 2 ^ exponent ≤ 2 ^ (53 + exponent) := by
    rw [zpow_add₀ two_ne_zero]
    gcongr
  rcases ((zpow_le_zpow_iff_right₀ one_lt_two).mp (low.trans bound)).eq_or_lt with full | room
  · rw [full, zpow_add₀ two_ne_zero] at low
    have reached : (2 : ℚ) ^ (53 : ℤ) ≤ |(count : ℚ)| := le_of_mul_le_mul_right low positive
    exact Or.inr ⟨full, bits.antisymm (by exact_mod_cast reached)⟩
  · exact Or.inl room

/-- Rounding leaves alone what has at most 53 significant bits, none of them finer than `2 ^ (-1074)`.
-/
theorem nearest_of_significand {count : ℤ} (exponent : ℤ) (bits : |count| ≤ 2 ^ 53)
    (fine : -1074 ≤ exponent) :
    nearest (count * 2 ^ exponent) = count * 2 ^ exponent := by
  rcases eq_or_ne count 0 with rfl | nonzero
  · rw [Int.cast_zero, zero_mul]
    decide +kernel
  rcases binaryExponent_of_significand exponent nonzero bits with room | ⟨full, power⟩
  · have finer : stepExponent (count * 2 ^ exponent) ≤ exponent := by
      unfold stepExponent
      omega
    obtain ⟨finerCount, equal⟩ := exists_multiple count finer
    exact nearest_of_multiple finerCount equal
  · -- the significand is `2 ^ 53` itself, so the number is a power of two on a grid twice as wide
    have wider : stepExponent (count * 2 ^ exponent) = exponent + 1 := by
      unfold stepExponent
      omega
    obtain ⟨half, halved⟩ : (2 : ℤ) ∣ count := by
      rw [← dvd_abs, power]
      exact dvd_pow_self 2 (by norm_num)
    apply nearest_of_multiple half
    rw [step, wider, zpow_add₀ two_ne_zero, halved]
    push_cast
    ring

/-- Every rounded number has at most 53 significant bits. -/
theorem nearest_eq_significand (q : ℚ) :
    ∃ count exponent : ℤ, |count| ≤ 2 ^ 53 ∧ -1074 ≤ exponent ∧ nearest q = count * 2 ^ exponent := by
  refine ⟨roundHalfEven (q / step q), stepExponent q, ?_, le_max_right _ _, rfl⟩
  rcases eq_or_ne q 0 with rfl | nonzero
  · rw [zero_div, show roundHalfEven 0 = 0 from by decide +kernel]
    norm_num
  apply abs_roundHalfEven_le
  rw [abs_div, abs_of_pos (step_pos q), div_le_iff₀ (step_pos q)]
  obtain ⟨-, high⟩ := binaryExponent_spec nonzero
  calc |q| ≤ 2 ^ (binaryExponent q + 1) := high.le
    _ ≤ 2 ^ (53 + stepExponent q) := by
        apply zpow_le_zpow_right₀ one_le_two
        unfold stepExponent
        omega
    _ = ((2 ^ 53 : ℤ) : ℚ) * step q := by
        rw [zpow_add₀ two_ne_zero, step]
        norm_num

/-- A greater magnitude has no finer grid. -/
theorem stepExponent_le {p q : ℚ} (nonzero : p ≠ 0) (ordered : |p| ≤ |q|) :
    stepExponent p ≤ stepExponent q := by
  have otherNonzero : q ≠ 0 := abs_pos.mp ((abs_pos.mpr nonzero).trans_le ordered)
  obtain ⟨low, -⟩ := binaryExponent_spec nonzero
  obtain ⟨-, high⟩ := binaryExponent_spec otherNonzero
  have exponents : binaryExponent p < binaryExponent q + 1 :=
    (zpow_lt_zpow_iff_right₀ one_lt_two).mp (low.trans_lt (ordered.trans_lt high))
  unfold stepExponent
  omega

/-- Rounding does not carry a number past a number of the format. -/
theorem nearest_le_of_fixed {p q : ℚ} (nonnegative : 0 ≤ p) (ordered : p ≤ q)
    (fixed : nearest q = q) : nearest p ≤ q := by
  rcases nonnegative.eq_or_lt with rfl | positive
  · rwa [show nearest 0 = 0 from representable_zero.1]
  have finer : stepExponent p ≤ stepExponent q := by
    refine stepExponent_le positive.ne' ?_
    rwa [abs_of_pos positive, abs_of_pos (positive.trans_le ordered)]
  -- the greater number is a multiple of the finer step as well
  obtain ⟨count, multiple⟩ := exists_multiple (roundHalfEven (q / step q)) finer
  have onGrid : q = count * step p := fixed.symm.trans multiple
  rw [onGrid, nearest]
  gcongr
  · exact (step_pos p).le
  · refine roundHalfEven_le ?_
    rw [div_le_iff₀ (step_pos p), ← onGrid]
    exact ordered

theorem nearest_nearest (q : ℚ) : nearest (nearest q) = nearest q := by
  obtain ⟨count, exponent, bits, fine, equal⟩ := nearest_eq_significand q
  rw [equal]
  exact nearest_of_significand exponent bits fine

/-- The format is symmetric around zero. -/
theorem nearest_neg_of_fixed {q : ℚ} (fixed : nearest q = q) : nearest (-q) = -q := by
  obtain ⟨count, exponent, bits, fine, equal⟩ := nearest_eq_significand q
  have negated : -q = (-count : ℤ) * 2 ^ exponent := by
    rw [← fixed, equal]
    push_cast
    ring
  rw [negated]
  exact nearest_of_significand exponent (by rwa [abs_neg]) fine

/-! ### Whole numbers -/

/-- A whole number up to `2 ^ 53` is on the grid. -/
theorem nearest_intCast {n : ℤ} (small : |n| ≤ 2 ^ 53) : nearest n = n := by
  have equal := nearest_of_significand 0 small (by norm_num)
  rwa [zpow_zero, mul_one] at equal

/-- Rounding leaves a whole number whole, however great it is: from `2 ^ 53` on no grid step is less than
one. -/
theorem exists_nearest_intCast (n : ℤ) : ∃ m : ℤ, nearest n = m := by
  rcases le_or_gt |n| (2 ^ 53) with small | great
  · exact ⟨n, nearest_intCast small⟩
  have greatRational : (2 : ℚ) ^ (53 : ℤ) < |(n : ℚ)| := by exact_mod_cast great
  have nonzero : (n : ℚ) ≠ 0 := abs_pos.mp ((zpow_pos two_pos _).trans greatRational)
  obtain ⟨-, high⟩ := binaryExponent_spec nonzero
  have exponent : 53 < binaryExponent (n : ℚ) + 1 :=
    (zpow_lt_zpow_iff_right₀ one_lt_two).mp (greatRational.trans high)
  have coarse : 0 ≤ stepExponent n := by
    unfold stepExponent
    omega
  obtain ⟨m, whole⟩ := exists_multiple (roundHalfEven (n / step n)) coarse
  rw [zpow_zero, mul_one] at whole
  exact ⟨m, whole⟩

theorem lt_overflowBound {q : ℚ} (bounded : |q| ≤ 2 ^ 54) : q.abs < overflowBound := by
  rw [abs_eq_abs]
  refine bounded.trans_lt ?_
  rw [overflowBound, show (2 : ℚ) ^ (54 : ℕ) = 2 ^ (54 : ℤ) from (zpow_natCast 2 54).symm]
  exact zpow_lt_zpow_right₀ one_lt_two (by norm_num)

theorem representable_intCast {n : ℤ} (small : |n| ≤ 2 ^ 53) : Representable n := by
  refine ⟨nearest_intCast small, lt_overflowBound ?_⟩
  have wide : |n| ≤ 2 ^ 54 := small.trans (by norm_num)
  exact_mod_cast wide

theorem representable_neg {q : ℚ} (representable : Representable q) : Representable (-q) :=
  ⟨nearest_neg_of_fixed representable.1, by
    rw [abs_eq_abs, abs_neg, ← abs_eq_abs]
    exact representable.2⟩

/-! ### Quotients -/

/-- Above the least normal number, rounding moves a number by at most one part in `2 ^ 53`. -/
theorem nearest_relative_error {q : ℚ} (normal : (2 : ℚ) ^ (-1022 : ℤ) ≤ |q|) :
    |nearest q - q| ≤ |q| / 2 ^ 53 := by
  have nonzero : q ≠ 0 := abs_pos.mp ((zpow_pos two_pos _).trans_le normal)
  obtain ⟨low, high⟩ := binaryExponent_spec nonzero
  have exponentLow : -1022 < binaryExponent q + 1 :=
    (zpow_lt_zpow_iff_right₀ one_lt_two).mp (normal.trans_lt high)
  have stepEq : step q = 2 ^ binaryExponent q / 2 ^ 52 := by
    have exponentEq : stepExponent q = binaryExponent q - 52 := by
      unfold stepExponent
      omega
    rw [step, exponentEq, zpow_sub₀ two_ne_zero]
    norm_num
  calc |nearest q - q| ≤ step q / 2 := nearest_error q
    _ = 2 ^ binaryExponent q / 2 ^ 53 := by rw [stepEq]; ring
    _ ≤ |q| / 2 ^ 53 := by gcongr

/-- What is at least one does not vanish. -/
theorem nearest_ne_zero {q : ℚ} (atLeastOne : 1 ≤ |q|) : nearest q ≠ 0 := by
  have normal : (2 : ℚ) ^ (-1022 : ℤ) ≤ |q| :=
    (zpow_le_one_of_nonpos₀ one_le_two (by norm_num)).trans atLeastOne
  have error := nearest_relative_error normal
  intro vanishes
  rw [vanishes, zero_sub, abs_neg] at error
  linarith

/-- Rounding a quotient moves it by less than one part of the divisor, because the dividend is below
`2 ^ 53`. -/
theorem nearest_div_error {dividend divisor : ℤ} (positive : 0 < divisor)
    (divisorSmall : divisor ≤ 2 ^ 53) (dividendSmall : |dividend| < 2 ^ 53) :
    |nearest (dividend / divisor) - dividend / divisor| < 1 / divisor := by
  have positiveRational : (0 : ℚ) < divisor := by exact_mod_cast positive
  rcases eq_or_ne dividend 0 with rfl | nonzero
  · rw [Int.cast_zero, zero_div, show nearest 0 = 0 from representable_zero.1, sub_zero, abs_zero]
    positivity
  have magnitude : |(dividend : ℚ) / divisor| = |(dividend : ℚ)| / divisor := by
    rw [abs_div, abs_of_pos positiveRational]
  have atLeastOne : (1 : ℚ) ≤ |(dividend : ℚ)| := by
    exact_mod_cast Int.one_le_abs nonzero
  have normal : (2 : ℚ) ^ (-1022 : ℤ) ≤ |(dividend : ℚ) / divisor| := by
    rw [magnitude, le_div_iff₀ positiveRational]
    calc (2 : ℚ) ^ (-1022 : ℤ) * divisor ≤ 2 ^ (-1022 : ℤ) * 2 ^ (53 : ℤ) := by
          gcongr
          rw [show (2 : ℚ) ^ (53 : ℤ) = ((2 ^ 53 : ℤ) : ℚ) by norm_num]
          exact_mod_cast divisorSmall
      _ ≤ 1 := by
          rw [← zpow_add₀ two_ne_zero]
          exact zpow_le_one_of_nonpos₀ one_le_two (by norm_num)
      _ ≤ |(dividend : ℚ)| := atLeastOne
  have smallRational : |(dividend : ℚ)| < 2 ^ 53 := by exact_mod_cast dividendSmall
  calc |nearest (dividend / divisor) - dividend / divisor|
      ≤ |(dividend : ℚ) / divisor| / 2 ^ 53 := nearest_relative_error normal
    _ = |(dividend : ℚ)| / 2 ^ 53 / divisor := by rw [magnitude]; ring
    _ < 1 / divisor := by
        gcongr
        rwa [div_lt_one (by norm_num)]

/-- A quotient that is no whole number keeps, rounded, its place between two whole numbers: it is at
least one part of the divisor away from both. -/
theorem nearest_div_between {dividend divisor : ℤ} (positive : 0 < divisor)
    (divisorSmall : divisor ≤ 2 ^ 53) (dividendSmall : |dividend| < 2 ^ 53) {whole : ℤ}
    (above : (whole : ℚ) < dividend / divisor) (below : (dividend / divisor : ℚ) < whole + 1) :
    (whole : ℚ) < nearest (dividend / divisor) ∧ nearest (dividend / divisor) < whole + 1 := by
  have positiveRational : (0 : ℚ) < divisor := by exact_mod_cast positive
  obtain ⟨errorLow, errorHigh⟩ :=
    abs_lt.mp (nearest_div_error positive divisorSmall dividendSmall)
  have lower : (whole : ℚ) + 1 / divisor ≤ dividend / divisor := by
    rw [lt_div_iff₀ positiveRational] at above
    have strict : whole * divisor < dividend := by exact_mod_cast above
    rw [le_div_iff₀ positiveRational, add_mul, one_div_mul_cancel positiveRational.ne']
    exact_mod_cast strict
  have upper : (dividend / divisor : ℚ) ≤ whole + 1 - 1 / divisor := by
    rw [div_lt_iff₀ positiveRational] at below
    have strict : dividend < (whole + 1) * divisor := by exact_mod_cast below
    rw [div_le_iff₀ positiveRational, sub_mul, one_div_mul_cancel positiveRational.ne']
    have : dividend ≤ (whole + 1) * divisor - 1 := Int.le_sub_one_of_lt strict
    exact_mod_cast this
  exact ⟨by linarith, by linarith⟩

/-- A quotient of whole numbers is one itself, or lies strictly between two neighbours. -/
theorem eq_floor_or_between (q : ℚ) : q = ⌊q⌋ ∨ ((⌊q⌋ : ℚ) < q ∧ q < ⌊q⌋ + 1) := by
  rcases (Int.floor_le q).eq_or_lt with equal | strict
  · exact Or.inl equal.symm
  · exact Or.inr ⟨strict, Int.lt_floor_add_one q⟩

theorem abs_div_lt {dividend divisor : ℤ} (positive : 0 < divisor)
    (dividendSmall : |dividend| < 2 ^ 53) : |(dividend / divisor : ℚ)| < 2 ^ 53 := by
  have atLeastOne : (1 : ℚ) ≤ divisor := by exact_mod_cast positive
  rw [abs_div, abs_of_pos (zero_lt_one.trans_le atLeastOne)]
  refine (div_le_self (abs_nonneg _) atLeastOne).trans_lt ?_
  exact_mod_cast dividendSmall

theorem abs_floor_le {q : ℚ} (bounded : |q| < 2 ^ 53) : |⌊q⌋| ≤ 2 ^ 53 := by
  obtain ⟨low, high⟩ := abs_lt.mp bounded
  rw [abs_le, Int.le_floor]
  refine ⟨by push_cast; exact low.le, ?_⟩
  exact (Int.floor_lt.mpr (by push_cast; exact high)).le

theorem abs_ceil_le {q : ℚ} (bounded : |q| < 2 ^ 53) : |⌈q⌉| ≤ 2 ^ 53 := by
  rw [← abs_neg, ← Int.floor_neg]
  exact abs_floor_le (by rwa [abs_neg])

/-- Rounding a quotient does not change what is cut off to the whole number below. -/
theorem floor_nearest_div {dividend divisor : ℤ} (positive : 0 < divisor)
    (divisorSmall : divisor ≤ 2 ^ 53) (dividendSmall : |dividend| < 2 ^ 53) :
    ⌊nearest (dividend / divisor)⌋ = ⌊(dividend / divisor : ℚ)⌋ := by
  rcases eq_floor_or_between (dividend / divisor : ℚ) with whole | ⟨above, below⟩
  · rw [whole, nearest_intCast (abs_floor_le (abs_div_lt positive dividendSmall)), Int.floor_intCast]
  · obtain ⟨low, high⟩ := nearest_div_between positive divisorSmall dividendSmall above below
    exact Int.floor_eq_iff.mpr ⟨low.le, high⟩

/-- Nor what is filled up to the whole number above. -/
theorem ceil_nearest_div {dividend divisor : ℤ} (positive : 0 < divisor)
    (divisorSmall : divisor ≤ 2 ^ 53) (dividendSmall : |dividend| < 2 ^ 53) :
    ⌈nearest (dividend / divisor)⌉ = ⌈(dividend / divisor : ℚ)⌉ := by
  rcases eq_floor_or_between (dividend / divisor : ℚ) with whole | ⟨above, below⟩
  · rw [whole, nearest_intCast (abs_floor_le (abs_div_lt positive dividendSmall)), Int.ceil_intCast]
  · obtain ⟨low, high⟩ := nearest_div_between positive divisorSmall dividendSmall above below
    have exact : ⌈(dividend / divisor : ℚ)⌉ = ⌊(dividend / divisor : ℚ)⌋ + 1 :=
      Int.ceil_eq_iff.mpr ⟨by push_cast; linarith, by push_cast; exact below.le⟩
    rw [exact]
    exact Int.ceil_eq_iff.mpr ⟨by push_cast; linarith, by push_cast; exact high.le⟩

/-- The rounded quotient is a number of the format. -/
theorem representable_nearest_div {dividend divisor : ℤ} (positive : 0 < divisor)
    (divisorSmall : divisor ≤ 2 ^ 53) (dividendSmall : |dividend| < 2 ^ 53) :
    Representable (nearest (dividend / divisor)) := by
  refine ⟨nearest_nearest _, lt_overflowBound ?_⟩
  have atLeastOne : (1 : ℚ) ≤ divisor := by exact_mod_cast positive
  have quotientSmall := (abs_div_lt positive dividendSmall).le
  have moved : |nearest (dividend / divisor) - dividend / divisor| < 1 :=
    (nearest_div_error positive divisorSmall dividendSmall).trans_le
      (div_le_one_of_le₀ atLeastOne (zero_le_one.trans atLeastOne))
  rw [abs_lt] at moved
  rw [abs_le] at quotientSmall ⊢
  constructor <;> linarith

end Pooling.Binary64
