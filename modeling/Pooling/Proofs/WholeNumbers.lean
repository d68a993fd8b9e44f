/-
This file follows whole numbers through the operations without a bound on their size. Beyond `2 ^ 53`
results are rounded, and beyond the format they are infinite; but a sum, a difference or a product has a
value only if its operands have, that value is the exact one rounded once, and rounding leaves a whole
number whole. So whatever is computed from whole numbers without a division is whole if it has a value
at all, and the two parts into which a `same` mode shares its total are whole numbers that are not
negative.
-/

import Pooling.Proofs.ExactAxis

namespace Pooling.Binary64

/-! ### Results with a value -/

/-- The number has a value: it is neither `nan` nor an infinity. -/
def IsFinite (x : Binary64) : Prop :=
  ∃ q, x.toRat? = some q

section Results

variable {x y : Binary64} {r : ℚ}

theorem toRat?_of_neg (value : (-x).toRat? = some r) : x.toRat? = some (-r) := by
  change x.neg.toRat? = some r at value
  cases x with
  | nan => cases value
  | infinity negative => cases value
  | negativeZero =>
    obtain rfl : 0 = r := Option.some_inj.mp value
    rw [neg_zero]
    rfl
  | finite held representable =>
    have negated := toRat?_neg (x := finite held representable) rfl
    obtain rfl : -held = r := Option.some_inj.mp (negated.symm.trans value)
    rw [neg_neg]
    rfl

/-- A sum with a value is the exact sum of two values, rounded once. -/
theorem exists_of_toRat?_add (value : (x + y).toRat? = some r) :
    ∃ p q, x.toRat? = some p ∧ y.toRat? = some q ∧ r = nearest (p + q) := by
  change (x.add y).toRat? = some r at value
  have fixed := nearest_of_toRat? value
  cases x with
  | nan => cases value
  | infinity negative =>
    cases y with
    | infinity other =>
      simp only [add] at value
      split at value <;> cases value
    | nan => cases value
    | negativeZero => cases value
    | finite second secondRepresentable => cases value
  | negativeZero =>
    cases y with
    | nan => cases value
    | infinity negative => cases value
    | negativeZero => exact ⟨0, r, rfl, value, by rw [zero_add, fixed]⟩
    | finite second secondRepresentable => exact ⟨0, r, rfl, value, by rw [zero_add, fixed]⟩
  | finite first firstRepresentable =>
    cases y with
    | nan => cases value
    | infinity negative => cases value
    | negativeZero => exact ⟨r, 0, value, rfl, by rw [add_zero, fixed]⟩
    | finite second secondRepresentable => exact ⟨first, second, rfl, rfl, toRat?_ofRat value⟩

theorem exists_of_toRat?_sub (value : (x - y).toRat? = some r) :
    ∃ p q, x.toRat? = some p ∧ y.toRat? = some q ∧ r = nearest (p - q) := by
  obtain ⟨p, q, first, second, rounded⟩ := exists_of_toRat?_add (y := -y) value
  exact ⟨p, -q, first, toRat?_of_neg second, by rw [sub_neg_eq_add, rounded]⟩

/-- An infinity times a number is infinite or `nan`. -/
theorem toRat?_infinity_mul (negative : Bool) (other : Binary64) :
    ((infinity negative).mul other).toRat? = none := by
  cases other with
  | nan => rfl
  | _ =>
    simp only [mul]
    split <;> rfl

theorem toRat?_mul_infinity (other : Binary64) (negative : Bool) :
    (other.mul (infinity negative)).toRat? = none := by
  cases other with
  | nan => rfl
  | _ =>
    simp only [mul]
    split <;> rfl

/-- A product with a value is the exact product of two values, rounded once. -/
theorem exists_of_toRat?_mul (value : (x * y).toRat? = some r) :
    ∃ p q, x.toRat? = some p ∧ y.toRat? = some q ∧ r = nearest (p * q) := by
  change (x.mul y).toRat? = some r at value
  have zero {negative : Bool} (same : (signedZero negative).toRat? = some r) (q : ℚ) :
      r = nearest (0 * q) ∧ r = nearest (q * 0) := by
    rw [zero_mul, mul_zero, representable_zero.1]
    obtain rfl : r = 0 := Option.some_inj.mp (same.symm.trans (toRat?_signedZero negative))
    exact ⟨rfl, rfl⟩
  cases x with
  | nan => cases value
  | infinity negative => cases (toRat?_infinity_mul negative y).symm.trans value
  | negativeZero =>
    cases y with
    | nan => cases value
    | infinity negative => cases (toRat?_mul_infinity _ negative).symm.trans value
    | negativeZero => exact ⟨0, 0, rfl, rfl, (zero value 0).1⟩
    | finite second secondRepresentable => exact ⟨0, second, rfl, rfl, (zero value second).1⟩
  | finite first firstRepresentable =>
    cases y with
    | nan => cases value
    | infinity negative => cases (toRat?_mul_infinity _ negative).symm.trans value
    | negativeZero => exact ⟨first, 0, rfl, rfl, (zero value first).2⟩
    | finite second secondRepresentable =>
      exact ⟨first, second, rfl, rfl, toRat?_of_round value⟩

/-- A quotient by a number that is neither zero nor infinite is rounded once as well. -/
theorem exists_of_toRat?_div {q : ℚ} (divisor : y.toRat? = some q) (nonzero : q ≠ 0)
    (value : (x / y).toRat? = some r) : ∃ p, x.toRat? = some p ∧ r = nearest (p / q) := by
  cases dividend : x.toRat? with
  | some p =>
    rw [div_eq_round dividend divisor nonzero] at value
    exact ⟨p, rfl, toRat?_of_round value⟩
  | none =>
    change (x.div y).toRat? = some r at value
    rw [div, dividend, divisor] at value
    dsimp only at value
    split at value <;> cases value

theorem exists_of_toRat?_floor (value : x.floor.toRat? = some r) :
    ∃ p, x.toRat? = some p ∧ r = nearest ⌊p⌋ := by
  cases x with
  | nan => cases value
  | infinity negative => cases value
  | negativeZero =>
    obtain rfl : 0 = r := Option.some_inj.mp value
    exact ⟨0, rfl, by rw [Int.floor_zero, Int.cast_zero, representable_zero.1]⟩
  | finite p representable => exact ⟨p, rfl, toRat?_of_round value⟩

theorem exists_of_toRat?_ceil (value : x.ceil.toRat? = some r) :
    ∃ p, x.toRat? = some p ∧ r = nearest ⌈p⌉ := by
  cases x with
  | nan => cases value
  | infinity negative => cases value
  | negativeZero =>
    obtain rfl : 0 = r := Option.some_inj.mp value
    exact ⟨0, rfl, by rw [Int.ceil_zero, Int.cast_zero, representable_zero.1]⟩
  | finite p representable =>
    exact ⟨p, rfl, ceil_eq_ceil p ▸ toRat?_of_round value⟩

/-- The greater of a number and zero is the number or zero. -/
theorem maximum_zero_cases (x : Binary64) :
    x.maximum 0 = nan ∨ x.maximum 0 = 0 ∨ (x.maximum 0 = x ∧ ¬ x.less 0 = true) := by
  unfold maximum
  split
  · exact Or.inl rfl
  split
  · exact Or.inr (Or.inl rfl)
  rename_i notBelow
  split
  · exact Or.inr (Or.inr ⟨rfl, notBelow⟩)
  split
  · exact Or.inr (Or.inl rfl)
  · exact Or.inr (Or.inr ⟨rfl, notBelow⟩)

end Results

/-! ### Whole results -/

/-- The number is whole if it has a value. -/
def IsWhole (x : Binary64) : Prop :=
  ∀ q, x.toRat? = some q → ∃ n : ℤ, q = n

namespace IsWhole

variable {x y : Binary64}

theorem of_nearest (each : ∀ q, x.toRat? = some q → ∃ n : ℤ, q = nearest n) : x.IsWhole := by
  intro q value
  obtain ⟨n, rfl⟩ := each q value
  exact exists_nearest_intCast n

theorem of_holds {n : ℤ} (held : x.Holds n) : x.IsWhole :=
  fun _ value => ⟨n, Option.some_inj.mp (value.symm.trans held)⟩

theorem ceil (x : Binary64) : x.ceil.IsWhole := by
  refine of_nearest fun q value => ?_
  obtain ⟨p, -, rounded⟩ := exists_of_toRat?_ceil value
  exact ⟨_, rounded⟩

theorem add (first : x.IsWhole) (second : y.IsWhole) : (x + y).IsWhole := by
  refine of_nearest fun r value => ?_
  obtain ⟨p, q, firstValue, secondValue, rounded⟩ := exists_of_toRat?_add value
  obtain ⟨m, rfl⟩ := first p firstValue
  obtain ⟨n, rfl⟩ := second q secondValue
  exact ⟨m + n, by rw [rounded, Int.cast_add]⟩

theorem sub (first : x.IsWhole) (second : y.IsWhole) : (x - y).IsWhole := by
  refine of_nearest fun r value => ?_
  obtain ⟨p, q, firstValue, secondValue, rounded⟩ := exists_of_toRat?_sub value
  obtain ⟨m, rfl⟩ := first p firstValue
  obtain ⟨n, rfl⟩ := second q secondValue
  exact ⟨m - n, by rw [rounded, Int.cast_sub]⟩

theorem mul (first : x.IsWhole) (second : y.IsWhole) : (x * y).IsWhole := by
  refine of_nearest fun r value => ?_
  obtain ⟨p, q, firstValue, secondValue, rounded⟩ := exists_of_toRat?_mul value
  obtain ⟨m, rfl⟩ := first p firstValue
  obtain ⟨n, rfl⟩ := second q secondValue
  exact ⟨m * n, by rw [rounded, Int.cast_mul]⟩

/-- The greater of a whole number and zero is a whole number that is not negative, if it has a value. -/
theorem maximum_zero (whole : x.IsWhole) {r : ℚ} (value : (x.maximum 0).toRat? = some r) :
    ∃ n : ℤ, 0 ≤ n ∧ r = n := by
  rcases maximum_zero_cases x with unknown | zero | ⟨same, notBelow⟩
  · rw [unknown] at value
    cases value
  · rw [zero] at value
    exact ⟨0, le_rfl, Option.some_inj.mp (value.symm.trans holds_zero)⟩
  · rw [same] at value
    obtain ⟨n, rfl⟩ := whole r value
    have ordered := (less_iff value holds_zero).not.mp notBelow
    exact ⟨n, by exact_mod_cast not_lt.mp ordered, rfl⟩

end IsWhole

end Pooling.Binary64

namespace Pooling

open Binary64

/-! ### The parts of a `same` total -/

/-- The total of a `same` mode is a whole number that is not negative, if it has a value. -/
theorem samePaddingTotal_whole {extent kernel stride : Binary64} (extentWhole : extent.IsWhole)
    (kernelWhole : kernel.IsWhole) (strideWhole : stride.IsWhole) {r : ℚ}
    (value : (samePaddingTotal extent kernel stride).toRat? = some r) :
    ∃ n : ℤ, 0 ≤ n ∧ r = n := by
  have one : (1 : Binary64).IsWhole := IsWhole.of_holds holds_one
  have start := ((IsWhole.ceil (extent / stride)).sub one).mul strideWhole
  exact ((start.add kernelWhole).sub extentWhole).maximum_zero value

/-- Sharing a whole total leaves two whole parts that are not negative, if the first is a whole number
between zero and the total, rounded, and the second has a value. -/
theorem share_holds {total part : Binary64} {t n : ℤ} (totalHeld : total.Holds t)
    (low : 0 ≤ n) (high : n ≤ t) (partValue : part.toRat? = some (nearest n))
    (rest : (total - part).IsFinite) :
    ∃ b a : ℤ, 0 ≤ b ∧ 0 ≤ a ∧ part.Holds b ∧ (total - part).Holds a := by
  obtain ⟨b, whole⟩ := exists_nearest_intCast n
  rw [whole] at partValue
  have partHeld : part.Holds b := partValue
  obtain ⟨r, restValue⟩ := rest
  obtain ⟨a, rfl⟩ := (IsWhole.of_holds totalHeld).sub (IsWhole.of_holds partHeld) r restValue
  obtain ⟨p, q, first, second, rounded⟩ := exists_of_toRat?_sub restValue
  obtain rfl : (t : ℚ) = p := Option.some_inj.mp (totalHeld.symm.trans first)
  obtain rfl : (b : ℚ) = q := Option.some_inj.mp (partHeld.symm.trans second)
  have partNonneg : (0 : ℚ) ≤ b := whole ▸ nearest_nonneg (by exact_mod_cast low)
  have partLe : (b : ℚ) ≤ t :=
    whole ▸ nearest_le_of_fixed (by exact_mod_cast low) (by exact_mod_cast high)
      (nearest_of_toRat? totalHeld)
  have restNonneg : (0 : ℚ) ≤ a := rounded ▸ nearest_nonneg (sub_nonneg.mpr partLe)
  exact ⟨b, a, by exact_mod_cast partNonneg, by exact_mod_cast restNonneg, partHeld, restValue⟩

/-- Half of a total, rounded to the format, lies between zero and the total, cut off or filled up. -/
theorem half_bounds {total : Binary64} {t : ℤ} (totalHeld : total.Holds t) (nonnegative : 0 ≤ t)
    {half : ℚ} (value : (total / 2).toRat? = some half) :
    0 ≤ ⌊half⌋ ∧ ⌊half⌋ ≤ t ∧ 0 ≤ ⌈half⌉ ∧ ⌈half⌉ ≤ t := by
  obtain ⟨p, totalValue, rounded⟩ := exists_of_toRat?_div holds_two two_ne_zero value
  obtain rfl : (t : ℚ) = p := Option.some_inj.mp (totalHeld.symm.trans totalValue)
  have rational : (0 : ℚ) ≤ t := by exact_mod_cast nonnegative
  have halved : (0 : ℚ) ≤ t / (2 : ℤ) := by
    push_cast
    linarith
  have low : 0 ≤ half := rounded ▸ nearest_nonneg halved
  have high : half ≤ t := by
    rw [rounded]
    refine nearest_le_of_fixed halved ?_ (nearest_of_toRat? totalHeld)
    push_cast
    linarith
  have floorHigh : ⌊half⌋ ≤ t := by exact_mod_cast (Int.floor_le half).trans high
  exact ⟨Int.floor_nonneg.mpr low, floorHigh, Int.ceil_nonneg low, Int.ceil_le.mpr high⟩

namespace Axis.Holds

variable {axis : Axis} {D K S : ℤ}

/-- If what remains of the total has a value, the total is a whole number that is not negative. -/
theorem samePadding_holds (held : axis.Holds D K S) {part : Binary64}
    (rest : (axis.samePadding - part).IsFinite) : ∃ t : ℤ, 0 ≤ t ∧ axis.samePadding.Holds t := by
  obtain ⟨r, restValue⟩ := rest
  obtain ⟨p, q, totalValue, -, -⟩ := exists_of_toRat?_sub restValue
  obtain ⟨t, nonnegative, rfl⟩ := samePaddingTotal_whole (IsWhole.of_holds held.extentHeld)
    (IsWhole.of_holds held.kernelHeld) (IsWhole.of_holds held.strideHeld) totalValue
  exact ⟨t, nonnegative, totalValue⟩

/-- Whatever the mode and however great the numbers, amounts that have values are whole numbers that are
not negative. -/
theorem padding_whole (held : axis.Holds D K S) {first second : Binary64} {f s : ℤ}
    (given : axis.listed = ⟨some first, some second⟩) (firstHeld : first.Holds f)
    (secondHeld : second.Holds s) (firstNonneg : 0 ≤ f) (secondNonneg : 0 ≤ s) {padType : PadType}
    {before after : Binary64} (padded : axis.padding padType = ⟨some before, some after⟩)
    (beforeFinite : before.IsFinite) (afterFinite : after.IsFinite) :
    ∃ b a : ℤ, 0 ≤ b ∧ 0 ≤ a ∧ before.Holds b ∧ after.Holds a := by
  cases padType with
  | valid =>
    cases padded
    exact ⟨0, 0, le_rfl, le_rfl, holds_zero, holds_zero⟩
  | custom =>
    cases given.symm.trans padded
    exact ⟨f, s, firstNonneg, secondNonneg, firstHeld, secondHeld⟩
  | same =>
    cases padded
    obtain ⟨t, nonnegative, totalHeld⟩ := held.samePadding_holds afterFinite
    obtain ⟨r, value⟩ := beforeFinite
    obtain ⟨half, halfValue, rfl⟩ := exists_of_toRat?_floor value
    obtain ⟨floorLow, floorHigh, -, -⟩ := half_bounds totalHeld nonnegative halfValue
    exact share_holds totalHeld floorLow floorHigh value afterFinite
  | sameLower =>
    cases padded
    obtain ⟨t, nonnegative, totalHeld⟩ := held.samePadding_holds afterFinite
    obtain ⟨r, value⟩ := beforeFinite
    obtain ⟨half, halfValue, rfl⟩ := exists_of_toRat?_ceil value
    obtain ⟨-, -, ceilLow, ceilHigh⟩ := half_bounds totalHeld nonnegative halfValue
    exact share_holds totalHeld ceilLow ceilHigh value afterFinite

end Axis.Holds

end Pooling
