/-
This file gives the arithmetic of one axis over the whole numbers and proves that the numbers of the
format follow it. Extent, kernel, stride and the two amounts of padding may add up to `2 ^ 53`; within
that range no step of the computation rounds, and the quotient of the span by the stride is cut off or
filled up to the whole number that the exact quotient gives.
-/

import Pooling.Axis
import Pooling.Proofs.Arithmetic

namespace Pooling

/-! ### Whole parts of quotients -/

theorem le_floor_div_iff (dividend count : ℤ) {divisor : ℤ} (positive : 0 < divisor) :
    count ≤ ⌊(dividend / divisor : ℚ)⌋ ↔ count * divisor ≤ dividend := by
  have positiveRational : (0 : ℚ) < divisor := by exact_mod_cast positive
  rw [Int.le_floor, le_div_iff₀ positiveRational]
  exact_mod_cast Iff.rfl

theorem ceil_div_le_iff (dividend count : ℤ) {divisor : ℤ} (positive : 0 < divisor) :
    ⌈(dividend / divisor : ℚ)⌉ ≤ count ↔ dividend ≤ count * divisor := by
  have positiveRational : (0 : ℚ) < divisor := by exact_mod_cast positive
  rw [Int.ceil_le, div_le_iff₀ positiveRational]
  exact_mod_cast Iff.rfl

/-- Multiplied out, the floor of a quotient stays below the dividend by less than the divisor. -/
theorem floor_div_mul_bounds (dividend : ℤ) {divisor : ℤ} (positive : 0 < divisor) :
    ⌊(dividend / divisor : ℚ)⌋ * divisor ≤ dividend ∧
      dividend < ⌊(dividend / divisor : ℚ)⌋ * divisor + divisor := by
  refine ⟨(le_floor_div_iff dividend _ positive).mp le_rfl, ?_⟩
  have beyond := (le_floor_div_iff dividend _ positive).not.mp
    (not_le.mpr (Int.lt_succ ⌊(dividend / divisor : ℚ)⌋))
  rw [not_le, add_mul, one_mul] at beyond
  exact beyond

/-- Multiplied out, the ceiling of a quotient stays above the dividend by less than the divisor. -/
theorem ceil_div_mul_bounds (dividend : ℤ) {divisor : ℤ} (positive : 0 < divisor) :
    dividend ≤ ⌈(dividend / divisor : ℚ)⌉ * divisor ∧
      ⌈(dividend / divisor : ℚ)⌉ * divisor < dividend + divisor := by
  refine ⟨(ceil_div_le_iff dividend _ positive).mp le_rfl, ?_⟩
  have short := (ceil_div_le_iff dividend _ positive).not.mp
    (not_le.mpr (Int.sub_one_lt_of_le (le_refl ⌈(dividend / divisor : ℚ)⌉)))
  rw [not_le, sub_mul, one_mul] at short
  linarith

theorem floor_div_eq {dividend divisor count : ℤ} (positive : 0 < divisor)
    (low : count * divisor ≤ dividend) (high : dividend < count * divisor + divisor) :
    ⌊(dividend / divisor : ℚ)⌋ = count := by
  refine le_antisymm ?_ ((le_floor_div_iff dividend count positive).mpr low)
  rw [← Int.lt_add_one_iff, ← not_le, le_floor_div_iff dividend (count + 1) positive, add_mul, one_mul]
  exact not_le.mpr high

theorem ceil_div_eq {dividend divisor count : ℤ} (positive : 0 < divisor)
    (low : count * divisor - divisor < dividend) (high : dividend ≤ count * divisor) :
    ⌈(dividend / divisor : ℚ)⌉ = count := by
  refine le_antisymm ((ceil_div_le_iff dividend count positive).mpr high) ?_
  rw [← Int.sub_one_lt_iff, ← not_le, ceil_div_le_iff dividend (count - 1) positive, sub_mul, one_mul]
  exact not_le.mpr low

/-- The strides of an axis, counting one that is begun, are no more than its positions. -/
theorem ceil_div_bounds {dividend divisor : ℤ} (nonnegative : 0 ≤ dividend) (positive : 1 ≤ divisor) :
    0 ≤ ⌈(dividend / divisor : ℚ)⌉ ∧ ⌈(dividend / divisor : ℚ)⌉ ≤ dividend := by
  have divisorPos : 0 < divisor := zero_lt_one.trans_le positive
  constructor
  · refine Int.ceil_nonneg (div_nonneg ?_ ?_) <;> exact_mod_cast by linarith
  · exact (ceil_div_le_iff dividend dividend divisorPos).mpr
      (le_mul_of_one_le_right nonnegative positive)

theorem floor_half (total : ℤ) : ⌊(total / 2 : ℚ)⌋ = total / 2 :=
  Rat.floor_intCast_div_natCast total 2

theorem ceil_half (total : ℤ) : ⌈(total / 2 : ℚ)⌉ = total - total / 2 := by
  have negated : ⌈(total / 2 : ℚ)⌉ = -(-total / 2) := Rat.ceil_intCast_div_natCast total 2
  omega

/-- A factor of at least one does not make a whole number smaller. -/
theorem abs_le_abs_mul (count : ℤ) {factor : ℤ} (positive : 1 ≤ factor) :
    |count| ≤ |count * factor| := by
  rw [abs_mul, abs_of_pos (zero_lt_one.trans_le positive)]
  exact le_mul_of_one_le_right (abs_nonneg count) positive

/-! ### One axis over the whole numbers -/

/-- The least padding that makes room for `⌈extent / stride⌉` windows. -/
def exactSameTotal (extent kernel stride : ℤ) : ℤ :=
  max ((⌈(extent / stride : ℚ)⌉ - 1) * stride + kernel - extent) 0

/-- How far the padded axis reaches beyond the first window. It is negative if that window is too wide.
-/
def exactSpan (extent kernel before after : ℤ) : ℤ :=
  extent + (before + after) - kernel

/-- The number of windows, as counted rounding down. -/
def exactFloorWindows (extent kernel stride before after : ℤ) : ℤ :=
  ⌊(exactSpan extent kernel before after / stride : ℚ)⌋ + 1

/-- The number of windows, as counted rounding up and before one is dropped. -/
def exactCeilWindows (extent kernel stride before after : ℤ) : ℤ :=
  ⌈(exactSpan extent kernel before after / stride : ℚ)⌉ + 1

/-- The number of windows. Rounding up, the last one is dropped if the axis is padded and the window
starts in the padding behind the axis. -/
def exactWindows (extent kernel stride before after : ℤ) (ceilMode : Bool) : ℤ :=
  let filled := exactCeilWindows extent kernel stride before after
  if ceilMode then
    if extent + before ≤ (filled - 1) * stride ∧ 0 < before + after then filled - 1 else filled
  else exactFloorWindows extent kernel stride before after

/-- The whole numbers that a valid axis has. -/
structure ValidAxis (extent kernel stride : ℤ) : Prop where
  extent_nonneg : 0 ≤ extent
  kernel_pos : 1 ≤ kernel
  stride_pos : 1 ≤ stride

/-! ### The total of a `same` mode -/

section SameTotal

variable {extent kernel stride : ℤ}

theorem exactSameTotal_nonneg : 0 ≤ exactSameTotal extent kernel stride :=
  le_max_right _ _

/-- A `same` mode pads by less than a kernel. -/
theorem exactSameTotal_lt (valid : ValidAxis extent kernel stride) :
    exactSameTotal extent kernel stride < kernel := by
  obtain ⟨-, high⟩ := ceil_div_mul_bounds extent valid.stride_pos
  have kernelPos := valid.kernel_pos
  rw [exactSameTotal, max_lt_iff, sub_mul, one_mul]
  constructor <;> linarith

end SameTotal

/-! ### Ranges -/

section Ranges

variable {D K S b a : ℤ}

theorem abs_exactSpan_lt (valid : ValidAxis D K S) (beforeNonneg : 0 ≤ b) (afterNonneg : 0 ≤ a)
    (bounded : D + K + S + b + a ≤ 2 ^ 53) : |exactSpan D K b a| < 2 ^ 53 := by
  obtain ⟨extentNonneg, kernelPos, stridePos⟩ := valid
  rw [exactSpan]
  exact abs_lt.mpr ⟨by linarith, by linarith⟩

/-- Rounding down, the last window starts at a whole number that the format holds. -/
theorem abs_floor_start_le (valid : ValidAxis D K S) (beforeNonneg : 0 ≤ b) (afterNonneg : 0 ≤ a)
    (bounded : D + K + S + b + a ≤ 2 ^ 53) :
    |⌊(exactSpan D K b a / S : ℚ)⌋ * S| ≤ 2 ^ 53 - 1 := by
  obtain ⟨extentNonneg, kernelPos, stridePos⟩ := valid
  obtain ⟨low, high⟩ := floor_div_mul_bounds (exactSpan D K b a) stridePos
  rw [exactSpan] at low high ⊢
  exact abs_le.mpr ⟨by linarith, by linarith⟩

/-- Rounding up, the last window starts at a whole number that the format holds. -/
theorem abs_ceil_start_le (valid : ValidAxis D K S) (beforeNonneg : 0 ≤ b) (afterNonneg : 0 ≤ a)
    (bounded : D + K + S + b + a ≤ 2 ^ 53) :
    |⌈(exactSpan D K b a / S : ℚ)⌉ * S| ≤ 2 ^ 53 - 1 := by
  obtain ⟨extentNonneg, kernelPos, stridePos⟩ := valid
  obtain ⟨low, high⟩ := ceil_div_mul_bounds (exactSpan D K b a) stridePos
  rw [exactSpan] at low high ⊢
  exact abs_le.mpr ⟨by linarith, by linarith⟩

/-- As many windows as start within the range of the format are a number of the format. -/
theorem abs_add_one_le {count : ℤ} (stridePos : 1 ≤ S) (start : |count * S| ≤ 2 ^ 53 - 1) :
    |count + 1| ≤ 2 ^ 53 := by
  have small := abs_le.mp ((abs_le_abs_mul count stridePos).trans start)
  exact abs_le.mpr ⟨by linarith, by linarith⟩

theorem abs_exactWindows_le (valid : ValidAxis D K S) (beforeNonneg : 0 ≤ b) (afterNonneg : 0 ≤ a)
    (bounded : D + K + S + b + a ≤ 2 ^ 53) (ceilMode : Bool) :
    |exactWindows D K S b a ceilMode| ≤ 2 ^ 53 := by
  have floorStart := abs_floor_start_le valid beforeNonneg afterNonneg bounded
  have ceilStart := abs_ceil_start_le valid beforeNonneg afterNonneg bounded
  have ceilSmall := (abs_le_abs_mul _ valid.stride_pos).trans ceilStart
  simp only [exactWindows]
  split
  · split
    · rw [exactCeilWindows, add_sub_cancel_right]
      linarith
    · exact abs_add_one_le valid.stride_pos ceilStart
  · exact abs_add_one_le valid.stride_pos floorStart

end Ranges

/-! ### The numbers of the format -/

open Binary64

section Exactness

variable {extent kernel stride before after : Binary64} {D K S b a : ℤ}

/-- The total of a `same` mode is exact. -/
theorem samePaddingTotal_eq (extentHeld : extent.Holds D) (kernelHeld : kernel.Holds K)
    (strideHeld : stride.Holds S) (valid : ValidAxis D K S) (bounded : D + K + S ≤ 2 ^ 53) :
    samePaddingTotal extent kernel stride = ofInt (exactSameTotal D K S) := by
  obtain ⟨extentNonneg, kernelPos, stridePos⟩ := valid
  obtain ⟨low, high⟩ := ceil_div_mul_bounds D stridePos
  have windowsHeld : (extent / stride).ceil.Holds ⌈(D / S : ℚ)⌉ :=
    extentHeld.ceil_div strideHeld stridePos (by linarith)
      (abs_lt.mpr ⟨by linarith, by linarith⟩)
  unfold samePaddingTotal exactSameTotal
  generalize ⌈(D / S : ℚ)⌉ = windows at low high windowsHeld ⊢
  have windowsNonneg : 0 ≤ windows := by nlinarith
  have windowsSmall : windows ≤ windows * S := by nlinarith
  have previousHeld : ((extent / stride).ceil - 1).Holds (windows - 1) :=
    windowsHeld.sub holds_one (abs_le.mpr ⟨by linarith, by linarith⟩)
  have reachedHeld := previousHeld.mul strideHeld (abs_le.mpr ⟨by linarith, by linarith⟩)
  have paddedHeld := reachedHeld.add kernelHeld (abs_le.mpr ⟨by linarith, by linarith⟩)
  have totalHeld := paddedHeld.sub extentHeld (abs_le.mpr ⟨by linarith, by linarith⟩)
  exact totalHeld.maximum_zero

/-- The room that the padded axis leaves beside the kernel is exact. -/
theorem span_holds (extentHeld : extent.Holds D) (kernelHeld : kernel.Holds K)
    (beforeHeld : before.Holds b) (afterHeld : after.Holds a) (valid : ValidAxis D K S)
    (beforeNonneg : 0 ≤ b) (afterNonneg : 0 ≤ a) (bounded : D + K + S + b + a ≤ 2 ^ 53) :
    (extent + (before + after) - kernel).Holds (exactSpan D K b a) := by
  have spanSmall := abs_exactSpan_lt valid beforeNonneg afterNonneg bounded
  obtain ⟨extentNonneg, kernelPos, stridePos⟩ := valid
  have totalHeld := beforeHeld.add afterHeld (abs_le.mpr ⟨by linarith, by linarith⟩)
  have paddedHeld := extentHeld.add totalHeld (abs_le.mpr ⟨by linarith, by linarith⟩)
  exact paddedHeld.sub kernelHeld spanSmall.le

/-- The number of windows is exact. -/
theorem windowCount_eq (extentHeld : extent.Holds D) (kernelHeld : kernel.Holds K)
    (strideHeld : stride.Holds S) (beforeHeld : before.Holds b) (afterHeld : after.Holds a)
    (valid : ValidAxis D K S) (beforeNonneg : 0 ≤ b) (afterNonneg : 0 ≤ a)
    (bounded : D + K + S + b + a ≤ 2 ^ 53) (ceilMode : Bool) :
    windowCount extent kernel stride before after ceilMode =
      ofInt (exactWindows D K S b a ceilMode) := by
  have floorStart := abs_floor_start_le valid beforeNonneg afterNonneg bounded
  have ceilStart := abs_ceil_start_le valid beforeNonneg afterNonneg bounded
  have spanSmall := abs_exactSpan_lt valid beforeNonneg afterNonneg bounded
  have spanHeld := span_holds extentHeld kernelHeld beforeHeld afterHeld valid beforeNonneg
    afterNonneg bounded
  obtain ⟨extentNonneg, kernelPos, stridePos⟩ := valid
  have strideSmall : S ≤ 2 ^ 53 := by linarith
  cases ceilMode with
  | false =>
    have floorHeld := spanHeld.floor_div strideHeld stridePos strideSmall spanSmall
    exact floorHeld.add_eq holds_one (Or.inr one_ne_negativeZero)
      (abs_add_one_le stridePos floorStart)
  | true =>
    have ceilHeld := spanHeld.ceil_div strideHeld stridePos strideSmall spanSmall
    have ceilSmall := (abs_le_abs_mul _ stridePos).trans ceilStart
    have nextSmall := abs_add_one_le stridePos ceilStart
    obtain ⟨previous, counted⟩ : ∃ previous, ⌈(exactSpan D K b a / S : ℚ)⌉ = previous := ⟨_, rfl⟩
    rw [counted] at ceilHeld ceilStart ceilSmall nextSmall
    simp only [windowCount, exactWindows, exactCeilWindows, counted, if_true]
    have windowsEq := ceilHeld.add_eq holds_one (Or.inr one_ne_negativeZero) nextSmall
    have windowsHeld := ceilHeld.add holds_one nextSmall
    have lastSmall : |previous + 1 - 1| ≤ 2 ^ 53 := by rw [add_sub_cancel_right]; linarith
    have lastEq := windowsHeld.sub_eq holds_one (windowsEq ▸ ofInt_ne_negativeZero _) lastSmall
    have lastHeld := windowsHeld.sub holds_one lastSmall
    have startHeld := lastHeld.mul strideHeld (by rw [add_sub_cancel_right]; linarith)
    have edgeHeld := extentHeld.add beforeHeld (abs_le.mpr ⟨by linarith, by linarith⟩)
    have totalHeld := beforeHeld.add afterHeld (abs_le.mpr ⟨by linarith, by linarith⟩)
    have startsBehind := (atMost_iff edgeHeld startHeld).trans Int.cast_le
    have padded := (less_iff holds_zero totalHeld).trans Int.cast_lt
    simp only [Bool.and_eq_true, startsBehind, padded]
    split
    · exact lastEq
    · exact windowsEq

end Exactness

/-! ### The padding of the `same` modes -/

/-- The numbers of the axis are those of a valid axis. -/
structure Axis.Holds (axis : Axis) (extent kernel stride : ℤ) : Prop where
  extentHeld : axis.extent.Holds extent
  kernelHeld : axis.kernel.Holds kernel
  strideHeld : axis.stride.Holds stride
  valid : ValidAxis extent kernel stride

namespace Axis.Holds

variable {axis : Axis} {D K S : ℤ}

theorem samePadding_eq (held : axis.Holds D K S) (bounded : D + K + S ≤ 2 ^ 53) :
    axis.samePadding = ofInt (exactSameTotal D K S) :=
  samePaddingTotal_eq held.extentHeld held.kernelHeld held.strideHeld held.valid bounded

theorem exactSameTotal_le (held : axis.Holds D K S) (bounded : D + K + S ≤ 2 ^ 53) :
    exactSameTotal D K S ≤ 2 ^ 53 - 1 := by
  have extentNonneg := held.valid.extent_nonneg
  have stridePos := held.valid.stride_pos
  have below := exactSameTotal_lt held.valid
  linarith

/-- Half of the total, cut off and filled up, as the two modes come to it. -/
theorem halves (held : axis.Holds D K S) (bounded : D + K + S ≤ 2 ^ 53) :
    (axis.samePadding / 2).floor = ofInt (exactSameTotal D K S / 2) ∧
      (axis.samePadding / 2).ceil = ofInt (exactSameTotal D K S - exactSameTotal D K S / 2) := by
  have nonnegative : 0 ≤ exactSameTotal D K S := exactSameTotal_nonneg
  have small := held.exactSameTotal_le bounded
  rw [held.samePadding_eq bounded]
  generalize exactSameTotal D K S = total at nonnegative small ⊢
  have totalSmall : |total| < 2 ^ 53 := abs_lt.mpr ⟨by linarith, by linarith⟩
  have totalHeld := holds_ofInt totalSmall.le
  have unsigned := totalHeld.div_unsigned holds_two two_pos nonnegative (ofInt_unsigned nonnegative)
  have floorHeld := totalHeld.floor_div holds_two two_pos (by norm_num) totalSmall
  have ceilHeld := totalHeld.ceil_div holds_two two_pos (by norm_num) totalSmall
  rw [Int.cast_ofNat, floor_half] at floorHeld
  rw [Int.cast_ofNat, ceil_half] at ceilHeld
  exact ⟨floorHeld.eq_ofInt (floor_ne_negativeZero (ne_negativeZero_of_unsigned unsigned)),
    ceilHeld.eq_ofInt (ceil_ne_negativeZero unsigned)⟩

/-- What remains of the total beside one part of it. -/
theorem rest_eq (held : axis.Holds D K S) (bounded : D + K + S ≤ 2 ^ 53) {part : ℤ}
    (partNonneg : 0 ≤ part) (partLe : part ≤ exactSameTotal D K S) :
    axis.samePadding - ofInt part = ofInt (exactSameTotal D K S - part) := by
  have small := held.exactSameTotal_le bounded
  rw [held.samePadding_eq bounded]
  refine Binary64.Holds.sub_eq (holds_ofInt ?_) (holds_ofInt ?_) (ofInt_ne_negativeZero _) ?_ <;>
    exact abs_le.mpr ⟨by linarith, by linarith⟩

/-- Of an odd total, `same` puts the greater half behind the axis. -/
theorem padding_same (held : axis.Holds D K S) (bounded : D + K + S ≤ 2 ^ 53) :
    axis.padding .same = ⟨some (ofInt (exactSameTotal D K S / 2)),
      some (ofInt (exactSameTotal D K S - exactSameTotal D K S / 2))⟩ := by
  have nonnegative : 0 ≤ exactSameTotal D K S := exactSameTotal_nonneg
  simp only [Axis.padding, (held.halves bounded).1]
  rw [held.rest_eq bounded (by omega) (by omega)]

/-- Of an odd total, `sameLower` puts the greater half in front of the axis. -/
theorem padding_sameLower (held : axis.Holds D K S) (bounded : D + K + S ≤ 2 ^ 53) :
    axis.padding .sameLower =
      ⟨some (ofInt (exactSameTotal D K S - exactSameTotal D K S / 2)),
        some (ofInt (exactSameTotal D K S / 2))⟩ := by
  have nonnegative : 0 ≤ exactSameTotal D K S := exactSameTotal_nonneg
  simp only [Axis.padding, (held.halves bounded).2]
  rw [held.rest_eq bounded (by omega) (by omega), sub_sub_cancel]

end Axis.Holds

/-! ### Padding and windows of every mode -/

/-- The padding of an axis in front of it and behind it, where a caller listed the amounts. -/
def exactPadding (padType : PadType) (extent kernel stride : ℤ) (listed : ℤ × ℤ) : ℤ × ℤ :=
  let total := exactSameTotal extent kernel stride
  match padType with
  | .valid => (0, 0)
  | .custom => listed
  | .same => (total / 2, total - total / 2)
  | .sameLower => (total - total / 2, total / 2)

theorem exactPadding_nonneg (padType : PadType) (extent kernel stride : ℤ) (listed : ℤ × ℤ)
    (beforeNonneg : 0 ≤ listed.1) (afterNonneg : 0 ≤ listed.2) :
    0 ≤ (exactPadding padType extent kernel stride listed).1 ∧
      0 ≤ (exactPadding padType extent kernel stride listed).2 := by
  have nonnegative : 0 ≤ exactSameTotal extent kernel stride := exactSameTotal_nonneg
  cases padType with
  | valid => exact ⟨le_rfl, le_rfl⟩
  | custom => exact ⟨beforeNonneg, afterNonneg⟩
  | same => constructor <;> simp only [exactPadding] <;> omega
  | sameLower => constructor <;> simp only [exactPadding] <;> omega

/-- Only a caller can ask for more padding behind the axis than a kernel covers. -/
theorem exactPadding_after_lt (padType : PadType) {extent kernel stride : ℤ} (listed : ℤ × ℤ)
    (valid : ValidAxis extent kernel stride) (computed : padType ≠ .custom) :
    (exactPadding padType extent kernel stride listed).2 < kernel := by
  have nonnegative : 0 ≤ exactSameTotal extent kernel stride := exactSameTotal_nonneg
  have below := exactSameTotal_lt valid
  have kernelPos := valid.kernel_pos
  cases padType with
  | valid => exact kernelPos
  | custom => exact absurd rfl computed
  | same => simp only [exactPadding]; omega
  | sameLower => simp only [exactPadding]; omega

namespace Axis.Holds

variable {axis : Axis} {D K S : ℤ}

/-- The padding of an axis holds the exact amounts. -/
theorem padding_holds (held : axis.Holds D K S) (bounded : D + K + S ≤ 2 ^ 53) (padType : PadType)
    (listed : ℤ × ℤ) {first second : Binary64} (given : axis.listed = ⟨some first, some second⟩)
    (firstHeld : first.Holds listed.1) (secondHeld : second.Holds listed.2) :
    ∃ before after, axis.padding padType = ⟨some before, some after⟩ ∧
      before.Holds (exactPadding padType D K S listed).1 ∧
      after.Holds (exactPadding padType D K S listed).2 := by
  have nonnegative : 0 ≤ exactSameTotal D K S := exactSameTotal_nonneg
  have small := held.exactSameTotal_le bounded
  have part {amount : ℤ} (low : 0 ≤ amount) (high : amount ≤ exactSameTotal D K S) :
      (ofInt amount).Holds amount :=
    holds_ofInt (abs_le.mpr ⟨by linarith, by linarith⟩)
  cases padType with
  | valid => exact ⟨0, 0, rfl, holds_zero, holds_zero⟩
  | custom => exact ⟨first, second, given, firstHeld, secondHeld⟩
  | same =>
    exact ⟨_, _, held.padding_same bounded, part (by omega) (by omega), part (by omega) (by omega)⟩
  | sameLower =>
    exact ⟨_, _, held.padding_sameLower bounded, part (by omega) (by omega),
      part (by omega) (by omega)⟩

/-- The number of windows on an axis is exact. -/
theorem windows_eq (held : axis.Holds D K S) {before after : Binary64} {b a : ℤ}
    (beforeHeld : before.Holds b) (afterHeld : after.Holds a) (beforeNonneg : 0 ≤ b)
    (afterNonneg : 0 ≤ a) (bounded : D + K + S + b + a ≤ 2 ^ 53) (ceilMode : Bool) :
    axis.windows ⟨some before, some after⟩ ceilMode = ofInt (exactWindows D K S b a ceilMode) :=
  windowCount_eq held.extentHeld held.kernelHeld held.strideHeld beforeHeld afterHeld held.valid
    beforeNonneg afterNonneg bounded ceilMode

end Axis.Holds

end Pooling
