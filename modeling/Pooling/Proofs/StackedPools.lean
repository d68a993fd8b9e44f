/-
This file settles what one pool after another comes to. Without padding, two pools are one: its kernel
covers what the kernels of the first cover under one kernel of the second, and its stride is the product
of the strides. That does not depend on there being any windows. A count is known by the numbers below it,
and whether a number is below it is an inequality between whole numbers in which no quotient is left, so
negative counts in between follow the same rule. Under `same` the kernels have no part in the count, and
strides of strides are strides.
-/

import Pooling.Proofs.Growth
import Pooling.Proofs.LeastPadding
import Pooling.Proofs.WindowStarts

namespace Pooling

open Binary64

/-! ### Counts without padding -/

section Unpadded

variable {D K S : ℤ}

/-- Rounding down, there are so many windows exactly if the last of them ends within the axis. -/
theorem le_exactWindows_unpadded_iff (stridePos : 0 < S) (count : ℤ) :
    count ≤ exactWindows D K S 0 0 false ↔ (count - 1) * S + K ≤ D := by
  rw [le_exactWindows_iff stridePos, add_zero, add_zero]

/-- Rounding up, there are more windows than so many exactly if one stride before the next of them a window
would not yet reach the end of the axis. -/
theorem lt_exactWindows_unpadded_iff (stridePos : 0 < S) (count : ℤ) :
    count < exactWindows D K S 0 0 true ↔ count * S < D - K + S := by
  have counted := lt_exactCeilWindows_iff (D := D) (K := K) (b := 0) (a := 0) stridePos count
  rw [add_zero, add_zero] at counted
  rw [exactWindows_up_of_unpadded (by norm_num)]
  exact counted

/-- Without padding, two pools one after the other count what one pool counts, also where the first count
is not positive. -/
theorem exactWindows_stacked {K' S' : ℤ} (stridePos : 0 < S) (nextPos : 0 < S') (ceilMode : Bool) :
    exactWindows (exactWindows D K S 0 0 ceilMode) K' S' 0 0 ceilMode =
      exactWindows D (K + (K' - 1) * S) (S * S') 0 0 ceilMode := by
  have jointPos : 0 < S * S' := mul_pos stridePos nextPos
  cases ceilMode with
  | false =>
    refine eq_of_forall_le_iff fun count => ?_
    rw [le_exactWindows_unpadded_iff nextPos, le_exactWindows_unpadded_iff stridePos,
      le_exactWindows_unpadded_iff jointPos]
    have reached : ((count - 1) * S' + K' - 1) * S + K =
        (count - 1) * (S * S') + (K + (K' - 1) * S) := by ring
    rw [reached]
  | true =>
    refine eq_of_forall_lt_iff fun count => ?_
    rw [lt_exactWindows_unpadded_iff nextPos, lt_exactWindows_unpadded_iff jointPos]
    -- the first count is bounded from below by a number, so its own windows can be looked at
    have below : count * S' < exactWindows D K S 0 0 true - K' + S' ↔
        count * S' + K' - S' < exactWindows D K S 0 0 true := by
      constructor <;> intro bound <;> linarith
    rw [below, lt_exactWindows_unpadded_iff stridePos]
    have started : (count * S' + K' - S') * S = count * (S * S') + (K' - S') * S := by ring
    rw [started]
    constructor <;> intro bound <;> linarith

/-- The last window starts within the axis or a stride behind it, or in front of it by less than a stride
and a kernel. So there are not many windows, nor many missing ones. -/
theorem abs_exactWindows_unpadded_le (kernelPos : 1 ≤ K) (stridePos : 1 ≤ S) (ceilMode : Bool) :
    |exactWindows D K S 0 0 ceilMode| ≤ |D| + K + S := by
  obtain ⟨extentLow, extentHigh⟩ := abs_le.mp (le_refl |D|)
  have start : |(exactWindows D K S 0 0 ceilMode - 1) * S| < |D| + K + S := by
    cases ceilMode with
    | false =>
      obtain ⟨low, high⟩ := floor_div_mul_bounds (exactSpan D K 0 0) stridePos
      rw [exactWindows_down, add_sub_cancel_right]
      unfold exactSpan at low high ⊢
      exact abs_lt.mpr ⟨by linarith, by linarith⟩
    | true =>
      obtain ⟨low, high⟩ := ceil_div_mul_bounds (exactSpan D K 0 0) stridePos
      rw [exactWindows_up_of_unpadded (by norm_num), add_sub_cancel_right]
      unfold exactSpan at low high ⊢
      exact abs_lt.mpr ⟨by linarith, by linarith⟩
  obtain ⟨low, high⟩ := abs_lt.mp ((abs_le_abs_mul _ stridePos).trans_lt start)
  exact abs_le.mpr ⟨by linarith, by linarith⟩

end Unpadded

/-- Without padding the number of windows is exact on negative extents too, which a tensor never has but a
count may be. -/
theorem windowCount_unpadded {extent kernel stride : Binary64} {D K S : ℤ}
    (extentHeld : extent.Holds D) (kernelHeld : kernel.Holds K) (strideHeld : stride.Holds S)
    (kernelPos : 1 ≤ K) (stridePos : 1 ≤ S) (bounded : |D| + K + S ≤ 2 ^ 53) (ceilMode : Bool) :
    windowCount extent kernel stride 0 0 ceilMode = ofInt (exactWindows D K S 0 0 ceilMode) := by
  obtain ⟨extentLow, extentHigh⟩ := abs_le.mp (le_refl |D|)
  have strideSmall : S ≤ 2 ^ 53 := by linarith [abs_nonneg D]
  have spanSmall : |exactSpan D K 0 0| < 2 ^ 53 := by
    unfold exactSpan
    exact abs_lt.mpr ⟨by linarith, by linarith⟩
  have totalHeld : (0 + 0 : Binary64).Holds (0 + 0) := holds_zero.add holds_zero (by norm_num)
  have paddedHeld := extentHeld.add totalHeld (abs_le.mpr ⟨by linarith, by linarith⟩)
  have spanHeld : (extent + (0 + 0) - kernel).Holds (exactSpan D K 0 0) :=
    paddedHeld.sub kernelHeld spanSmall.le
  have countSmall := (abs_exactWindows_unpadded_le (D := D) kernelPos stridePos ceilMode).trans bounded
  cases ceilMode with
  | false =>
    have floorHeld := spanHeld.floor_div strideHeld stridePos strideSmall spanSmall
    exact floorHeld.add_eq holds_one (Or.inr one_ne_negativeZero) countSmall
  | true =>
    have ceilHeld := spanHeld.ceil_div strideHeld stridePos strideSmall spanSmall
    have unpadded : Binary64.less 0 (0 + 0) = false := by decide +kernel
    rw [exactWindows_up_of_unpadded (by norm_num)] at countSmall ⊢
    simp only [windowCount, unpadded, Bool.and_false, Bool.false_eq_true, if_true, if_false]
    exact ceilHeld.add_eq holds_one (Or.inr one_ne_negativeZero) countSmall

/-! ### Strides of strides -/

/-- The strides of the strides of an axis, counting ones that are begun, are the strides of the product. -/
theorem ceil_div_ceil_div {S S' : ℤ} (stridePos : 0 < S) (nextPos : 0 < S') (D : ℤ) :
    ⌈(⌈(D / S : ℚ)⌉ / S' : ℚ)⌉ = ⌈(D / (S * S' : ℤ) : ℚ)⌉ := by
  refine eq_of_forall_ge_iff fun count => ?_
  rw [ceil_div_le_iff _ _ nextPos, ceil_div_le_iff _ _ stridePos,
    ceil_div_le_iff _ _ (mul_pos stridePos nextPos), mul_assoc, mul_comm S']

section Same

variable {extents kernelSizes strides : List Binary64} {index : ℕ} {D K S : ℤ}

/-- Under `same`, rounding down, the entry of an axis is the number of its strides. -/
theorem getElem?_outputExtents_same (pad : List Binary64) (extentAt : HoldsAt extents index D)
    (kernelAt : HoldsAt kernelSizes index K) (strideAt : HoldsAt strides index S)
    (valid : ValidAxis D K S) (bounded : D + 2 * K + S ≤ 2 ^ 53) :
    (outputExtents .same extents kernelSizes strides pad false)[index]? =
      some (ofInt ⌈(D / S : ℚ)⌉) := by
  obtain ⟨extent, extentFound, extentHeld⟩ := extentAt
  obtain ⟨kernel, kernelFound, kernelHeld⟩ := kernelAt
  obtain ⟨stride, strideFound, strideHeld⟩ := strideAt
  have held : Axis.Holds ⟨extent, kernel, stride, ⟨pad[2 * index]?, pad[2 * index + 1]?⟩⟩ D K S :=
    ⟨extentHeld, kernelHeld, strideHeld, valid⟩
  rw [outputExtents, List.getElem?_map, getElem?_axes pad extentFound kernelFound strideFound,
    Option.map_some, held.windows_same bounded]

end Same

/-! ### Stacked pools -/

/-- Two pools one after the other, without padding and rounded alike, are one pool. Its kernel covers the
kernels of the first under one kernel of the second, its stride is the product of the strides, and the first
count need not be positive. Under `same`, rounding down, every axis of every list comes out of two pools as
it does out of one with the product of the strides, whatever the kernels are. -/
theorem stacked_pools_compose {D K S K' S' : ℤ} (extentNonneg : 0 ≤ D) (kernelPos : 1 ≤ K)
    (stridePos : 1 ≤ S) (nextKernelPos : 1 ≤ K') (nextStridePos : 1 ≤ S') (extentSmall : D ≤ 2 ^ 50)
    (strideSmall : S * S' ≤ 2 ^ 50) :
    (K + (K' - 1) * S ≤ 2 ^ 50 → ∀ (ceilMode : Bool)
      (extent kernel stride nextKernel nextStride jointKernel jointStride : Binary64),
      extent.Holds D → kernel.Holds K → stride.Holds S → nextKernel.Holds K' →
      nextStride.Holds S' → jointKernel.Holds (K + (K' - 1) * S) → jointStride.Holds (S * S') →
      ∃ between out : ℤ, (windowCount extent kernel stride 0 0 ceilMode).Holds between ∧
        (windowCount extent jointKernel jointStride 0 0 ceilMode).Holds out ∧
        windowCount (windowCount extent kernel stride 0 0 ceilMode) nextKernel nextStride 0 0
            ceilMode =
          windowCount extent jointKernel jointStride 0 0 ceilMode) ∧
    ∀ (extents kernelSizes strides pad nextKernels nextStrides nextPad jointKernels jointStrides
      jointPad : List Binary64) (index : ℕ) (J : ℤ),
      HoldsAt extents index D → HoldsAt kernelSizes index K → HoldsAt strides index S →
      HoldsAt nextKernels index K' → HoldsAt nextStrides index S' → HoldsAt jointKernels index J →
      HoldsAt jointStrides index (S * S') → 1 ≤ J → K ≤ 2 ^ 50 → K' ≤ 2 ^ 50 → J ≤ 2 ^ 50 →
      (outputExtents .same (outputExtents .same extents kernelSizes strides pad false) nextKernels
          nextStrides nextPad false)[index]? =
        (outputExtents .same extents jointKernels jointStrides jointPad false)[index]? ∧
      HoldsAt (outputExtents .same extents jointKernels jointStrides jointPad false) index
        ⌈(D / (S * S' : ℤ) : ℚ)⌉ := by
  have jointPos : 1 ≤ S * S' := one_le_mul_of_one_le_of_one_le stridePos nextStridePos
  have firstSmall : S ≤ 2 ^ 50 := (le_mul_of_one_le_right (by linarith) nextStridePos).trans strideSmall
  have nextSmall : S' ≤ 2 ^ 50 := (le_mul_of_one_le_left (by linarith) stridePos).trans strideSmall
  constructor
  · intro kernelSmall ceilMode extent kernel stride nextKernel nextStride jointKernel jointStride
      extentHeld kernelHeld strideHeld nextKernelHeld nextStrideHeld jointKernelHeld jointStrideHeld
    have covered : K' - 1 ≤ (K' - 1) * S := le_mul_of_one_le_right (by linarith) stridePos
    have magnitude : |D| = D := abs_of_nonneg extentNonneg
    have betweenSmall := abs_exactWindows_unpadded_le (D := D) kernelPos stridePos ceilMode
    have outSmall := abs_exactWindows_unpadded_le (D := D) (K := K + (K' - 1) * S) (by linarith)
      jointPos ceilMode
    have first := windowCount_unpadded extentHeld kernelHeld strideHeld kernelPos stridePos
      (by linarith) ceilMode
    have betweenHeld : (windowCount extent kernel stride 0 0 ceilMode).Holds
        (exactWindows D K S 0 0 ceilMode) := by
      rw [first]
      exact holds_ofInt (by linarith)
    have joint := windowCount_unpadded extentHeld jointKernelHeld jointStrideHeld (by linarith)
      jointPos (by linarith) ceilMode
    refine ⟨_, exactWindows D (K + (K' - 1) * S) (S * S') 0 0 ceilMode, betweenHeld, ?_, ?_⟩
    · rw [joint]
      exact holds_ofInt (by linarith)
    · rw [joint, windowCount_unpadded betweenHeld nextKernelHeld nextStrideHeld nextKernelPos
        nextStridePos (by linarith), exactWindows_stacked stridePos nextStridePos]
  · intro extents kernelSizes strides pad nextKernels nextStrides nextPad jointKernels jointStrides
      jointPad index J extentAt kernelAt strideAt nextKernelAt nextStrideAt jointKernelAt
      jointStrideAt jointKernelPos kernelSmall nextKernelSmall jointKernelSmall
    obtain ⟨betweenNonneg, betweenLe⟩ := ceil_div_bounds extentNonneg stridePos
    obtain ⟨outNonneg, outLe⟩ := ceil_div_bounds extentNonneg jointPos
    have between : HoldsAt (outputExtents .same extents kernelSizes strides pad false) index
        ⌈(D / S : ℚ)⌉ :=
      ⟨_, getElem?_outputExtents_same pad extentAt kernelAt strideAt
        ⟨extentNonneg, kernelPos, stridePos⟩ (by linarith),
        holds_ofInt (abs_le.mpr ⟨by linarith, by linarith⟩)⟩
    have twice := getElem?_outputExtents_same nextPad between nextKernelAt nextStrideAt
      ⟨betweenNonneg, nextKernelPos, nextStridePos⟩ (by linarith)
    have once := getElem?_outputExtents_same jointPad extentAt jointKernelAt jointStrideAt
      ⟨extentNonneg, jointKernelPos, jointPos⟩ (by linarith)
    refine ⟨?_, _, once, holds_ofInt (abs_le.mpr ⟨by linarith, by linarith⟩)⟩
    rw [twice, once, ceil_div_ceil_div (zero_lt_one.trans_le stridePos)
      (zero_lt_one.trans_le nextStridePos)]

/-- Ten positions under a kernel of thirteen: the first pool comes to one window less than none. -/
theorem missing_window_is_stacked :
    (windowCount 10 13 2 0 0 false).Holds (-1) ∧
      windowCount (windowCount 10 13 2 0 0 false) 2 3 0 0 false = windowCount 10 15 6 0 0 false ∧
      (outputExtents .same (outputExtents .same [10] [13] [2] [] false) [2] [3] [] false)[0]? =
        (outputExtents .same [10] [1] [6] [] false)[0]? := by
  have held (n : ℕ) (small : n ≤ 2 ^ 53) : (Binary64.ofNat n).Holds n := holds_ofNat small
  have threeHeld : (3 : Binary64).Holds 3 := held 3 (by norm_num)
  have sixHeld : (6 : Binary64).Holds 6 := held 6 (by norm_num)
  have tenHeld : (10 : Binary64).Holds 10 := held 10 (by norm_num)
  have thirteenHeld : (13 : Binary64).Holds 13 := held 13 (by norm_num)
  have fifteenHeld : (15 : Binary64).Holds 15 := held 15 (by norm_num)
  obtain ⟨unpadded, same⟩ := @stacked_pools_compose 10 13 2 2 3 (by norm_num) (by norm_num)
    (by norm_num) (by norm_num) (by norm_num) (by norm_num) (by norm_num)
  obtain ⟨-, -, -, -, stacked⟩ := unpadded (by norm_num) false 10 13 2 2 3 15 6
    tenHeld thirteenHeld holds_two holds_two threeHeld fifteenHeld sixHeld
  have missing : (windowCount 10 13 2 0 0 false).Holds (-1) := by
    rw [show windowCount 10 13 2 0 0 false = ofInt (-1) by decide +kernel]
    exact holds_ofInt (by norm_num)
  refine ⟨missing, stacked, (same [10] [13] [2] [] [2] [3] [] [1] [6] [] 0 1 ⟨10, rfl, tenHeld⟩
    ⟨13, rfl, thirteenHeld⟩ ⟨2, rfl, holds_two⟩ ⟨2, rfl, holds_two⟩ ⟨3, rfl, threeHeld⟩
    ⟨1, rfl, holds_one⟩ ⟨6, rfl, sixHeld⟩ (by norm_num) (by norm_num) (by norm_num)
    (by norm_num)).1⟩

end Pooling
