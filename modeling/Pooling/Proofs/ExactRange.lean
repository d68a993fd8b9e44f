/-
This file says what the arithmetic of one axis comes to while extent, kernel, stride and the two amounts
of padding add up to at most `2 ^ 53`. Sums, differences and products are then whole numbers that the
format holds. Quotients are rounded, but a quotient that is no whole number is further from the next one
than rounding moves it, so cutting off and filling up give what the exact quotient gives.
-/

import Pooling.Proofs.ExactAxis

namespace Pooling.Binary64

/-! ### Places among the whole numbers -/

/-- The number has a value that stands to every whole number as `q` does. -/
def SamePlace (x : Binary64) (q : ℚ) : Prop :=
  ∃ r, x.toRat? = some r ∧ ∀ k : ℤ, ((k : ℚ) ≤ r ↔ (k : ℚ) ≤ q) ∧ (r ≤ k ↔ q ≤ k)

/-- Rounding carries a quotient neither to a whole number nor across one. -/
theorem Holds.div_samePlace {x y : Binary64} {m n : ℤ} (first : x.Holds m) (second : y.Holds n)
    (positive : 0 < n) (divisorSmall : n ≤ 2 ^ 53) (dividendSmall : |m| < 2 ^ 53) :
    (x / y).SamePlace (m / n) := by
  refine ⟨_, first.toRat?_div second positive divisorSmall dividendSmall, fun k => ⟨?_, ?_⟩⟩
  · rw [← Int.le_floor, ← Int.le_floor, floor_nearest_div positive divisorSmall dividendSmall]
  · rw [← Int.ceil_le, ← Int.ceil_le, ceil_nearest_div positive divisorSmall dividendSmall]

/-- The number is this whole number, and not the negative zero. -/
structure IsExactly (x : Binary64) (n : ℤ) : Prop where
  holds : x.Holds n
  signed : x ≠ negativeZero

theorem isExactly_ofInt {n : ℤ} (small : |n| ≤ 2 ^ 53) : (ofInt n).IsExactly n :=
  ⟨holds_ofInt small, ofInt_ne_negativeZero n⟩

end Pooling.Binary64

namespace Pooling

open Binary64

section Halves

variable {axis : Axis} {D K S : ℤ}

/-- The part of a total, as an amount. -/
theorem Axis.Holds.isExactly_part (held : axis.Holds D K S) (bounded : D + K + S ≤ 2 ^ 53) {part : ℤ}
    (low : 0 ≤ part) (high : part ≤ exactSameTotal D K S) : (ofInt part).IsExactly part := by
  have small := held.exactSameTotal_le bounded
  exact isExactly_ofInt (abs_le.mpr ⟨by linarith, by linarith⟩)

/-- `same` shares the total into half of it, cut off, and the rest; `sameLower` into half of it, filled
up, and the rest. -/
theorem Axis.Holds.shares (held : axis.Holds D K S) (bounded : D + K + S ≤ 2 ^ 53) :
    (∃ before after, axis.padding .same = ⟨some before, some after⟩ ∧
        before.IsExactly ⌊(exactSameTotal D K S / 2 : ℚ)⌋ ∧
        after.IsExactly (exactSameTotal D K S - ⌊(exactSameTotal D K S / 2 : ℚ)⌋)) ∧
      ∃ before after, axis.padding .sameLower = ⟨some before, some after⟩ ∧
        before.IsExactly ⌈(exactSameTotal D K S / 2 : ℚ)⌉ ∧
        after.IsExactly (exactSameTotal D K S - ⌈(exactSameTotal D K S / 2 : ℚ)⌉) := by
  have nonnegative : 0 ≤ exactSameTotal D K S := exactSameTotal_nonneg
  rw [floor_half, ceil_half, sub_sub_cancel]
  have lesser : (ofInt (exactSameTotal D K S / 2)).IsExactly (exactSameTotal D K S / 2) :=
    held.isExactly_part bounded (by omega) (by omega)
  have greater : (ofInt (exactSameTotal D K S - exactSameTotal D K S / 2)).IsExactly
      (exactSameTotal D K S - exactSameTotal D K S / 2) :=
    held.isExactly_part bounded (by omega) (by omega)
  exact ⟨⟨_, _, held.padding_same bounded, lesser, greater⟩,
    ⟨_, _, held.padding_sameLower bounded, greater, lesser⟩⟩

end Halves

/-! ### Exactness -/

/-- Where extent, kernel, stride and both amounts of padding add up to at most `2 ^ 53`, the arithmetic
of an axis gives the exact total, the exact shares of it and the exact number of windows, rounding down
and rounding up, and no rounded quotient reaches or passes a whole number that the exact one does not. -/
theorem arithmetic_is_exact_within_range {extent kernel stride before after : Binary64}
    {D K S b a : ℤ} (extentHeld : extent.Holds D) (kernelHeld : kernel.Holds K)
    (strideHeld : stride.Holds S) (beforeHeld : before.Holds b) (afterHeld : after.Holds a)
    (extentNonneg : 0 ≤ D) (kernelPos : 1 ≤ K) (stridePos : 1 ≤ S) (beforeNonneg : 0 ≤ b)
    (afterNonneg : 0 ≤ a) (bounded : D + K + S + b + a ≤ 2 ^ 53) (listed : Padding) :
    let axis : Axis := ⟨extent, kernel, stride, listed⟩
    let total : ℤ := max ((⌈(D / S : ℚ)⌉ - 1) * S + K - D) 0
    let span : ℤ := D + b + a - K
    let filled : ℤ := ⌈(span / S : ℚ)⌉ + 1
    (samePaddingTotal extent kernel stride).IsExactly total ∧
      (∃ front behind, axis.padding .same = ⟨some front, some behind⟩ ∧
        front.IsExactly ⌊(total / 2 : ℚ)⌋ ∧ behind.IsExactly (total - ⌊(total / 2 : ℚ)⌋)) ∧
      (∃ front behind, axis.padding .sameLower = ⟨some front, some behind⟩ ∧
        front.IsExactly ⌈(total / 2 : ℚ)⌉ ∧ behind.IsExactly (total - ⌈(total / 2 : ℚ)⌉)) ∧
      (windowCount extent kernel stride before after false).IsExactly (⌊(span / S : ℚ)⌋ + 1) ∧
      (windowCount extent kernel stride before after true).IsExactly
        (if D + b ≤ (filled - 1) * S ∧ 0 < b + a then filled - 1 else filled) ∧
      (extent / stride).SamePlace (D / S) ∧
      ((extent + (before + after) - kernel) / stride).SamePlace (span / S) ∧
      (samePaddingTotal extent kernel stride / 2).SamePlace (total / 2) := by
  intro axis total span filled
  have valid : ValidAxis D K S := ⟨extentNonneg, kernelPos, stridePos⟩
  have held : axis.Holds D K S := ⟨extentHeld, kernelHeld, strideHeld, valid⟩
  have boundedAxis : D + K + S ≤ 2 ^ 53 := by linarith
  have strideSmall : S ≤ 2 ^ 53 := by linarith
  have spanEq : exactSpan D K b a = span := by
    show D + (b + a) - K = D + b + a - K
    rw [add_assoc]
  have spanSmall : |span| < 2 ^ 53 :=
    spanEq ▸ abs_exactSpan_lt valid beforeNonneg afterNonneg bounded
  have totalNonneg : 0 ≤ total := exactSameTotal_nonneg
  have totalLe : total ≤ 2 ^ 53 - 1 := held.exactSameTotal_le boundedAxis
  have totalSmall : |total| < 2 ^ 53 := abs_lt.mpr ⟨by linarith, by linarith⟩
  have totalExact : (samePaddingTotal extent kernel stride).IsExactly total := by
    rw [samePaddingTotal_eq extentHeld kernelHeld strideHeld valid boundedAxis]
    exact isExactly_ofInt totalSmall.le
  have counted (ceilMode : Bool) : (windowCount extent kernel stride before after ceilMode).IsExactly
      (exactWindows D K S b a ceilMode) := by
    rw [windowCount_eq extentHeld kernelHeld strideHeld beforeHeld afterHeld valid beforeNonneg
      afterNonneg bounded ceilMode]
    exact isExactly_ofInt (abs_exactWindows_le valid beforeNonneg afterNonneg bounded ceilMode)
  have down := counted false
  have up := counted true
  simp only [exactWindows, exactFloorWindows, exactCeilWindows, spanEq, if_true] at down up
  have spanHeld : (extent + (before + after) - kernel).Holds span :=
    spanEq ▸ span_holds extentHeld kernelHeld beforeHeld afterHeld valid beforeNonneg afterNonneg
      bounded
  obtain ⟨same, sameLower⟩ := held.shares boundedAxis
  refine ⟨totalExact, same, sameLower, down, up, ?_, ?_, ?_⟩
  · exact extentHeld.div_samePlace strideHeld stridePos strideSmall
      (abs_lt.mpr ⟨by linarith, by linarith⟩)
  · exact spanHeld.div_samePlace strideHeld stridePos strideSmall spanSmall
  · exact totalExact.holds.div_samePlace holds_two two_pos (by norm_num) totalSmall

/-- A kernel that the padded axis has no room for, with numbers that add up to `2 ^ 53`. -/
theorem wide_kernel_is_exact :
    (5 + (2 ^ 53 - 20) + 3 + 7 + 5 : ℤ) ≤ 2 ^ 53 ∧
      (samePaddingTotal 5 (ofInt (2 ^ 53 - 20)) 3).IsExactly (2 ^ 53 - 22) ∧
      (windowCount 5 (ofInt (2 ^ 53 - 20)) 3 7 5 false).IsExactly (-3002399751580318) := by
  have bounded : (5 + (2 ^ 53 - 20) + 3 + 7 + 5 : ℤ) ≤ 2 ^ 53 := by norm_num
  have kernelHeld : (ofInt (2 ^ 53 - 20)).Holds (2 ^ 53 - 20) := holds_ofInt (by norm_num)
  have threeHeld : (3 : Binary64).Holds 3 := holds_ofNat (by norm_num)
  have fiveHeld : (5 : Binary64).Holds 5 := holds_ofNat (by norm_num)
  have sevenHeld : (7 : Binary64).Holds 7 := holds_ofNat (by norm_num)
  obtain ⟨total, -, -, down, -⟩ := arithmetic_is_exact_within_range fiveHeld kernelHeld threeHeld
    sevenHeld fiveHeld (by norm_num) (by norm_num) (by norm_num) (by norm_num) (by norm_num) bounded
    ⟨none, none⟩
  rw [ceil_div_eq (by norm_num) (show (2 * 3 - 3 : ℤ) < 5 by norm_num) (by norm_num)] at total
  rw [floor_div_eq (by norm_num)
    (show (-3002399751580319 * 3 : ℤ) ≤ 5 + 7 + 5 - (2 ^ 53 - 20) by norm_num) (by norm_num)] at down
  exact ⟨bounded, total, down⟩

end Pooling
