/-
This file settles that the total of a `same` mode is the least padding under which rounding down leaves a
window for every stride of the axis, counting one that is begun. Padding makes room for so many windows
exactly if it reaches the total, however it is shared between the two sides; and the total makes room for
no further one. The empty axis is no exception: the total takes it to the point at which no window is
counted, and with less padding the count is negative.
-/

import Pooling.Proofs.HeldAxes
import Pooling.Proofs.SameModes

namespace Pooling

open Binary64

/-! ### Room for windows over the whole numbers -/

section Room

variable {D K S b a : ℤ}

/-- Rounding down, there are so many windows exactly if the last of them ends within the padded axis. -/
theorem le_exactWindows_iff (stridePos : 0 < S) (count : ℤ) :
    count ≤ exactWindows D K S b a false ↔ (count - 1) * S + K ≤ D + (b + a) := by
  have counted := le_floor_div_iff (exactSpan D K b a) (count - 1) stridePos
  rw [exactWindows_down, ← sub_le_iff_le_add, counted]
  unfold exactSpan
  constructor <;> intro bound <;> linarith

/-- Padding makes room for a window at every stride exactly if it reaches the total. -/
theorem strides_le_exactWindows_iff (stridePos : 0 < S) (paddingNonneg : 0 ≤ b + a) :
    ⌈(D / S : ℚ)⌉ ≤ exactWindows D K S b a false ↔ exactSameTotal D K S ≤ b + a := by
  rw [le_exactWindows_iff stridePos, exactSameTotal, max_le_iff, and_iff_left paddingNonneg]
  constructor <;> intro bound <;> linarith

end Room

/-! ### The total that the program computes -/

/-- The total of a `same` mode is the least padding that makes room for `⌈extent / stride⌉` windows. It is
below the kernel. Shared between the two sides in any way, it leaves exactly that many windows, rounding
down, and less padding leaves fewer. So as many come out under `same` on every axis of every list, and unit
strides keep the extents. -/
theorem same_total_is_least {extent kernel stride : Binary64} {D K S : ℤ}
    (extentHeld : extent.Holds D) (kernelHeld : kernel.Holds K) (strideHeld : stride.Holds S)
    (extentNonneg : 0 ≤ D) (kernelPos : 1 ≤ K) (stridePos : 1 ≤ S) (extentSmall : D ≤ 2 ^ 50)
    (kernelSmall : K ≤ 2 ^ 50) (strideSmall : S ≤ 2 ^ 50) :
    ∃ total : ℤ, (samePaddingTotal extent kernel stride).Holds total ∧ 0 ≤ total ∧ total ≤ K - 1 ∧
      (∀ (before after : Binary64) (b a : ℤ), before.Holds b → after.Holds a → 0 ≤ b → 0 ≤ a →
        (b + a = total →
          (windowCount extent kernel stride before after false).Holds ⌈(D / S : ℚ)⌉) ∧
        (b + a < total →
          ∃ out : ℤ, (windowCount extent kernel stride before after false).Holds out ∧
            out < ⌈(D / S : ℚ)⌉)) ∧
      ∀ (extents kernelSizes strides pad : List Binary64) (index : ℕ),
        extents[index]? = some extent → kernelSizes[index]? = some kernel →
        strides[index]? = some stride →
        (outputExtents .same extents kernelSizes strides pad false).length = extents.length ∧
        HoldsAt (outputExtents .same extents kernelSizes strides pad false) index
          ⌈(D / S : ℚ)⌉ ∧
        (S = 1 → HoldsAt (outputExtents .same extents kernelSizes strides pad false) index D) := by
  have valid : ValidAxis D K S := ⟨extentNonneg, kernelPos, stridePos⟩
  have below := exactSameTotal_lt valid
  have totalNonneg : 0 ≤ exactSameTotal D K S := exactSameTotal_nonneg
  have counted {before after : Binary64} {b a : ℤ} (beforeHeld : before.Holds b)
      (afterHeld : after.Holds a) (beforeNonneg : 0 ≤ b) (afterNonneg : 0 ≤ a)
      (paddingLe : b + a ≤ exactSameTotal D K S) :
      (windowCount extent kernel stride before after false).Holds
        (exactWindows D K S b a false) :=
    windowCount_holds extentHeld kernelHeld strideHeld beforeHeld afterHeld valid beforeNonneg
      afterNonneg (by linarith) false
  refine ⟨exactSameTotal D K S, samePaddingTotal_holds extentHeld kernelHeld strideHeld valid
    (by linarith), totalNonneg, by linarith, ?_, ?_⟩
  · intro before after b a beforeHeld afterHeld beforeNonneg afterNonneg
    constructor
    · intro shared
      rw [← exactWindows_same valid shared]
      exact counted beforeHeld afterHeld beforeNonneg afterNonneg shared.le
    · intro less
      refine ⟨_, counted beforeHeld afterHeld beforeNonneg afterNonneg less.le, ?_⟩
      rw [← not_le, strides_le_exactWindows_iff stridePos (add_nonneg beforeNonneg afterNonneg)]
      exact not_le.mpr less
  · intro extents kernelSizes strides pad index extentAt kernelAt strideAt
    have held : Axis.Holds ⟨extent, kernel, stride, ⟨pad[2 * index]?, pad[2 * index + 1]?⟩⟩ D K S :=
      ⟨extentHeld, kernelHeld, strideHeld, valid⟩
    have onePerStride : HoldsAt (outputExtents .same extents kernelSizes strides pad false) index
        ⌈(D / S : ℚ)⌉ := by
      have shared := add_sub_cancel (exactSameTotal D K S / 2) (exactSameTotal D K S)
      rw [← exactWindows_same valid shared]
      refine ⟨_, ?_, held.windows_holds (held.padding_same_holds (by linarith)) (by omega)
        (by omega) (by linarith) false⟩
      rw [outputExtents, List.getElem?_map, getElem?_axes pad extentAt kernelAt strideAt,
        Option.map_some]
    refine ⟨length_outputExtents _ _ _ _ _ _, onePerStride, ?_⟩
    rintro rfl
    rwa [Int.cast_one, div_one, Int.ceil_intCast] at onePerStride

/-- An empty axis with a kernel of five and a stride of two takes three units of padding. -/
theorem empty_axis_takes_three :
    (0 : Binary64).Holds 0 ∧ (5 : Binary64).Holds 5 ∧ (2 : Binary64).Holds 2 ∧
      (samePaddingTotal 0 5 2).Holds 3 ∧ (windowCount 0 5 2 1 2 false).Holds 0 ∧
      ∃ out : ℤ, (windowCount 0 5 2 1 1 false).Holds out ∧ out < 0 := by
  have fiveHeld : (5 : Binary64).Holds 5 := holds_ofNat (n := 5) (by norm_num)
  have threeIsTotal : (samePaddingTotal 0 5 2).Holds 3 := by
    rw [show samePaddingTotal 0 5 2 = 3 by decide +kernel]
    exact holds_ofNat (n := 3) (by norm_num)
  obtain ⟨total, totalHeld, -, -, room, -⟩ := same_total_is_least holds_zero fiveHeld holds_two
    (by norm_num) (by norm_num) (by norm_num) (by norm_num) (by norm_num) (by norm_num)
  obtain rfl := totalHeld.unique threeIsTotal
  have strides : ⌈((0 : ℤ) / (2 : ℤ) : ℚ)⌉ = 0 := by norm_num
  rw [strides] at room
  exact ⟨holds_zero, fiveHeld, holds_two, threeIsTotal,
    (room 1 2 1 2 holds_one holds_two (by norm_num) (by norm_num)).1 (by norm_num),
    (room 1 1 1 1 holds_one holds_one (by norm_num) (by norm_num)).2 (by norm_num)⟩

end Pooling
