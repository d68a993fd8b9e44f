/-
This file settles that the two `same` modes are mirror images of each other with one output. On every axis
of every list the amounts of one are those of the other with the two sides exchanged, they share the total
as evenly as whole numbers can, and the greater part lies behind the axis or in front of it. The number of
windows does not show on which side it lies. Rounding up could tell, because whether a window is dropped
depends on the padding in front; but under the total no window starts behind the axis, or there is no
padding at all.
-/

import Pooling.Proofs.HeldAxes
import Pooling.Proofs.SameModes

namespace Pooling

open Binary64

/-! ### One axis -/

theorem Padding.Holds.exchanged {padding : Padding} {b a : ℤ} (held : padding.Holds b a) :
    padding.exchanged.Holds a b := by
  obtain ⟨before, after, rfl, beforeHeld, afterHeld⟩ := held
  exact ⟨after, before, rfl, afterHeld, beforeHeld⟩

/-- However the total is shared, it leaves as many windows. -/
theorem exactWindows_eq_of_total {D K S b a b' a' : ℤ} (valid : ValidAxis D K S)
    (beforeNonneg : 0 ≤ b) (otherNonneg : 0 ≤ b') (shared : b + a = exactSameTotal D K S)
    (otherShared : b' + a' = exactSameTotal D K S) (ceilMode : Bool) :
    exactWindows D K S b a ceilMode = exactWindows D K S b' a' ceilMode := by
  cases ceilMode with
  | false => rw [exactWindows_same valid shared, exactWindows_same valid otherShared]
  | true =>
    rw [exactWindows_same_ceil valid beforeNonneg shared,
      exactWindows_same_ceil valid otherNonneg otherShared]

theorem Axis.Holds.windows_same_eq_sameLower {axis : Axis} {D K S : ℤ} (held : axis.Holds D K S)
    (bounded : D + 2 * K + S ≤ 2 ^ 53) (ceilMode : Bool) :
    axis.windows (axis.padding .same) ceilMode =
      axis.windows (axis.padding .sameLower) ceilMode := by
  have nonnegative : 0 ≤ exactSameTotal D K S := exactSameTotal_nonneg
  have kernelPos := held.valid.kernel_pos
  have shared := add_sub_cancel (exactSameTotal D K S / 2) (exactSameTotal D K S)
  have lowerShared := sub_add_cancel (exactSameTotal D K S) (exactSameTotal D K S / 2)
  rw [held.padding_same (by linarith), held.padding_sameLower (by linarith),
    held.windows_of_total bounded (by omega) (by omega) shared,
    held.windows_of_total bounded (by omega) (by omega) lowerShared,
    exactWindows_eq_of_total held.valid (by omega) (by omega) shared lowerShared]

/-! ### Lists -/

/-- The two `same` modes are mirror images with one output, on lists of any length. Each gives one pair of
amounts for every extent, and the pairs of one are those of the other with the sides exchanged. A pair adds
up to the total of its axis and differs by one at most, with the greater amount behind under `same` and so
in front under `sameLower`. Rounded either way, the extents of the output are equal. -/
theorem same_modes_are_mirrored (extents kernelSizes strides pad : List Binary64)
    (small : AxesAtMost extents kernelSizes strides (2 ^ 50)) (ceilMode : Bool) :
    (padAmounts .same extents kernelSizes strides pad).length = extents.length ∧
    (padAmounts .sameLower extents kernelSizes strides pad).length = extents.length ∧
    padAmounts .sameLower extents kernelSizes strides pad =
      (padAmounts .same extents kernelSizes strides pad).map Padding.exchanged ∧
    (∀ index < extents.length, ∃ b a : ℤ,
      AmountsAt (padAmounts .same extents kernelSizes strides pad) index b a ∧
      AmountsAt (padAmounts .sameLower extents kernelSizes strides pad) index a b ∧
      0 ≤ b ∧ 0 ≤ a ∧ b ≤ a ∧ a ≤ b + 1 ∧
      (samePaddingTotal (operand extents[index]?) (operand kernelSizes[index]?)
        (operand strides[index]?)).Holds (b + a)) ∧
    outputExtents .same extents kernelSizes strides pad ceilMode =
      outputExtents .sameLower extents kernelSizes strides pad ceilMode := by
  have mirrored : padAmounts .sameLower extents kernelSizes strides pad =
      (padAmounts .same extents kernelSizes strides pad).map Padding.exchanged := by
    rw [padAmounts, padAmounts, List.map_map]
    refine List.map_congr_left fun axis member => ?_
    obtain ⟨D, K, S, held, extentSmall, kernelSmall, strideSmall⟩ := small.exists_holds member
    exact held.padding_exchanged (by linarith)
  refine ⟨length_padAmounts _ _ _ _ _, length_padAmounts _ _ _ _ _, mirrored, ?_, ?_⟩
  · intro index inside
    obtain ⟨D, K, S, ⟨extent, extentAt, extentHeld⟩, ⟨kernel, kernelAt, kernelHeld⟩,
      ⟨stride, strideAt, strideHeld⟩, valid, extentSmall, kernelSmall, strideSmall⟩ :=
      small index inside
    have held : Axis.Holds ⟨extent, kernel, stride, ⟨pad[2 * index]?, pad[2 * index + 1]?⟩⟩ D K S :=
      ⟨extentHeld, kernelHeld, strideHeld, valid⟩
    have bounded : D + K + S ≤ 2 ^ 53 := by linarith
    have totalNonneg : 0 ≤ exactSameTotal D K S := exactSameTotal_nonneg
    have padded := held.padding_same_holds bounded
    have sameAt := getElem?_padAmounts .same pad extentAt kernelAt strideAt
    refine ⟨_, _, ⟨_, sameAt, padded⟩, ⟨_, ?_, padded.exchanged⟩, by omega, by omega, by omega,
      by omega, ?_⟩
    · rw [mirrored, List.getElem?_map, sameAt, Option.map_some]
    · rw [extentAt, kernelAt, strideAt, add_sub_cancel]
      exact samePaddingTotal_holds extentHeld kernelHeld strideHeld valid bounded
  · rw [outputExtents, outputExtents]
    refine List.map_congr_left fun axis member => ?_
    obtain ⟨D, K, S, held, extentSmall, kernelSmall, strideSmall⟩ := small.exists_holds member
    exact held.windows_same_eq_sameLower (by linarith) ceilMode

/-- An axis with an odd total, and one whose strides leave a position behind the last window. -/
theorem odd_total_is_mirrored :
    AxesAtMost [9, 10] [4, 1] [3, 4] (2 ^ 50) ∧
      padAmounts .same [9, 10] [4, 1] [3, 4] [] = [⟨some 0, some 1⟩, ⟨some 0, some 0⟩] ∧
      padAmounts .sameLower [9, 10] [4, 1] [3, 4] [] = [⟨some 1, some 0⟩, ⟨some 0, some 0⟩] ∧
      outputExtents .same [9, 10] [4, 1] [3, 4] [] true =
        outputExtents .sameLower [9, 10] [4, 1] [3, 4] [] true := by
  have small : AxesAtMost [9, 10] [4, 1] [3, 4] (2 ^ 50) := by
    intro index inside
    have fewer : index < 2 := inside
    interval_cases index
    · exact ⟨9, 4, 3, ⟨9, rfl, holds_ofNat (n := 9) (by norm_num)⟩,
        ⟨4, rfl, holds_ofNat (n := 4) (by norm_num)⟩, ⟨3, rfl, holds_ofNat (n := 3) (by norm_num)⟩,
        ⟨by norm_num, by norm_num, by norm_num⟩, by norm_num, by norm_num, by norm_num⟩
    · exact ⟨10, 1, 4, ⟨10, rfl, holds_ofNat (n := 10) (by norm_num)⟩, ⟨1, rfl, holds_one⟩,
        ⟨4, rfl, holds_ofNat (n := 4) (by norm_num)⟩, ⟨by norm_num, by norm_num, by norm_num⟩,
        by norm_num, by norm_num, by norm_num⟩
  obtain ⟨-, -, mirrored, -, equal⟩ := same_modes_are_mirrored [9, 10] [4, 1] [3, 4] [] small true
  have same : padAmounts .same [9, 10] [4, 1] [3, 4] [] = [⟨some 0, some 1⟩, ⟨some 0, some 0⟩] := by
    decide +kernel
  exact ⟨small, same, by rw [mirrored, same]; rfl, equal⟩

end Pooling
