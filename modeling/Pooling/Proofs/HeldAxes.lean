/-
This file carries the exact arithmetic of one axis over to lists. Where the lists of a call hold the whole
numbers of a valid axis, the entries of the answer at the same index are what that axis comes to, and the
other entries have no part in them. The mode `same` looks at no listed amounts, so nothing is asked of
these there.
-/

import Pooling.Proofs.AcceptedNode

namespace Pooling

open Binary64

/-! ### Windows of an axis -/

theorem exactWindows_down (D K S b a : ℤ) :
    exactWindows D K S b a false = ⌊(exactSpan D K b a / S : ℚ)⌋ + 1 :=
  rfl

theorem exactWindows_up (D K S b a : ℤ) :
    exactWindows D K S b a true =
      if D + b ≤ ⌈(exactSpan D K b a / S : ℚ)⌉ * S ∧ 0 < b + a then
        ⌈(exactSpan D K b a / S : ℚ)⌉
      else ⌈(exactSpan D K b a / S : ℚ)⌉ + 1 := by
  simp only [exactWindows, exactCeilWindows, if_true, add_sub_cancel_right]

/-- The amounts of the padding are these whole numbers. -/
def Padding.Holds (padding : Padding) (before after : ℤ) : Prop :=
  ∃ first second, padding = ⟨some first, some second⟩ ∧ first.Holds before ∧ second.Holds after

/-- The padding at an index is there, and its amounts are these whole numbers. -/
def AmountsAt (paddings : List Padding) (index : ℕ) (before after : ℤ) : Prop :=
  ∃ padding, paddings[index]? = some padding ∧ padding.Holds before after

section Windows

variable {extent kernel stride before after : Binary64} {D K S b a : ℤ}

/-- The total of a `same` mode holds the exact one. -/
theorem samePaddingTotal_holds (extentHeld : extent.Holds D) (kernelHeld : kernel.Holds K)
    (strideHeld : stride.Holds S) (valid : ValidAxis D K S) (bounded : D + K + S ≤ 2 ^ 53) :
    (samePaddingTotal extent kernel stride).Holds (exactSameTotal D K S) := by
  have nonnegative : 0 ≤ exactSameTotal D K S := exactSameTotal_nonneg
  have below := exactSameTotal_lt valid
  have extentNonneg := valid.extent_nonneg
  have stridePos := valid.stride_pos
  rw [samePaddingTotal_eq extentHeld kernelHeld strideHeld valid bounded]
  exact holds_ofInt (abs_le.mpr ⟨by linarith, by linarith⟩)

/-- The number of windows holds the exact one. -/
theorem windowCount_holds (extentHeld : extent.Holds D) (kernelHeld : kernel.Holds K)
    (strideHeld : stride.Holds S) (beforeHeld : before.Holds b) (afterHeld : after.Holds a)
    (valid : ValidAxis D K S) (beforeNonneg : 0 ≤ b) (afterNonneg : 0 ≤ a)
    (bounded : D + K + S + b + a ≤ 2 ^ 53) (ceilMode : Bool) :
    (windowCount extent kernel stride before after ceilMode).Holds
      (exactWindows D K S b a ceilMode) := by
  rw [windowCount_eq extentHeld kernelHeld strideHeld beforeHeld afterHeld valid beforeNonneg
    afterNonneg bounded]
  exact holds_ofInt (abs_exactWindows_le valid beforeNonneg afterNonneg bounded ceilMode)

end Windows

namespace Axis.Holds

variable {axis : Axis} {D K S : ℤ}

theorem windows_holds (held : axis.Holds D K S) {padding : Padding} {b a : ℤ}
    (padded : padding.Holds b a) (beforeNonneg : 0 ≤ b) (afterNonneg : 0 ≤ a)
    (bounded : D + K + S + b + a ≤ 2 ^ 53) (ceilMode : Bool) :
    (axis.windows padding ceilMode).Holds (exactWindows D K S b a ceilMode) := by
  obtain ⟨before, after, rfl, beforeHeld, afterHeld⟩ := padded
  exact windowCount_holds held.extentHeld held.kernelHeld held.strideHeld beforeHeld afterHeld
    held.valid beforeNonneg afterNonneg bounded ceilMode

/-- The mode `same` shares the total into halves, of which the one behind the axis may be greater. -/
theorem padding_same_holds (held : axis.Holds D K S) (bounded : D + K + S ≤ 2 ^ 53) :
    (axis.padding .same).Holds (exactSameTotal D K S / 2)
      (exactSameTotal D K S - exactSameTotal D K S / 2) := by
  have nonnegative : 0 ≤ exactSameTotal D K S := exactSameTotal_nonneg
  have small := held.exactSameTotal_le bounded
  refine ⟨_, _, held.padding_same bounded, holds_ofInt ?_, holds_ofInt ?_⟩ <;>
    exact abs_le.mpr ⟨by omega, by omega⟩

end Axis.Holds

/-! ### Entries of lists -/

section Lists

variable {extents kernelSizes strides : List Binary64}

/-- The axis that the lists give at an index. -/
theorem getElem?_axes (pad : List Binary64) {index : ℕ} {extent kernel stride : Binary64}
    (extentAt : extents[index]? = some extent) (kernelAt : kernelSizes[index]? = some kernel)
    (strideAt : strides[index]? = some stride) :
    (axes extents kernelSizes strides pad)[index]? =
      some ⟨extent, kernel, stride, ⟨pad[2 * index]?, pad[2 * index + 1]?⟩⟩ := by
  rw [axes, List.getElem?_mapIdx, extentAt, Option.map_some, kernelAt, strideAt]
  rfl

theorem getElem?_padAmounts (padType : PadType) (pad : List Binary64) {index : ℕ}
    {extent kernel stride : Binary64} (extentAt : extents[index]? = some extent)
    (kernelAt : kernelSizes[index]? = some kernel) (strideAt : strides[index]? = some stride) :
    (padAmounts padType extents kernelSizes strides pad)[index]? = some
      (Axis.padding ⟨extent, kernel, stride, ⟨pad[2 * index]?, pad[2 * index + 1]?⟩⟩ padType) := by
  rw [padAmounts, List.getElem?_map, getElem?_axes pad extentAt kernelAt strideAt, Option.map_some]

/-- The lists hold the numbers of a valid axis for every extent, none of them above the bound. -/
def AxesAtMost (extents kernelSizes strides : List Binary64) (bound : ℤ) : Prop :=
  ∀ index < extents.length, ∃ D K S : ℤ, HoldsAt extents index D ∧ HoldsAt kernelSizes index K ∧
    HoldsAt strides index S ∧ ValidAxis D K S ∧ D ≤ bound ∧ K ≤ bound ∧ S ≤ bound

/-- The axes that are computed with hold these numbers. -/
theorem AxesAtMost.exists_holds {bound : ℤ} (atMost : AxesAtMost extents kernelSizes strides bound)
    {pad : List Binary64} {axis : Axis} (member : axis ∈ axes extents kernelSizes strides pad) :
    ∃ D K S : ℤ, axis.Holds D K S ∧ D ≤ bound ∧ K ≤ bound ∧ S ≤ bound := by
  obtain ⟨index, found⟩ := List.mem_iff_getElem?.mp member
  have inside := (List.getElem?_eq_some_iff.mp found).1
  rw [length_axes] at inside
  obtain ⟨D, K, S, ⟨extent, extentAt, extentHeld⟩, ⟨kernel, kernelAt, kernelHeld⟩,
    ⟨stride, strideAt, strideHeld⟩, valid, small⟩ := atMost index inside
  obtain rfl := Option.some_inj.mp
    ((getElem?_axes pad extentAt kernelAt strideAt).symm.trans found)
  exact ⟨D, K, S, ⟨extentHeld, kernelHeld, strideHeld, valid⟩, small⟩

theorem length_padAmounts (padType : PadType) (extents kernelSizes strides pad : List Binary64) :
    (padAmounts padType extents kernelSizes strides pad).length = extents.length := by
  rw [padAmounts, List.length_map, length_axes]

theorem length_outputExtents (padType : PadType) (extents kernelSizes strides pad : List Binary64)
    (ceilMode : Bool) :
    (outputExtents padType extents kernelSizes strides pad ceilMode).length = extents.length := by
  rw [outputExtents, List.length_map, length_axes]

end Lists

end Pooling
