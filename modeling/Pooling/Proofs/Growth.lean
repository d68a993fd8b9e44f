/-
This file settles how the output grows with the input. As an axis gets longer, the number of windows never
falls, it rises by one at most from one extent to the next, and by exactly one with every stride. For the
quotient of the span, cut off or filled up, that is plain. But rounding up drops a window on some extents
and not on others, and a `same` mode pads every extent differently. Both are laid out here as the greater or
the lesser of such quotients, which grow in step.
-/

import Pooling.Proofs.HeldAxes
import Pooling.Proofs.SameModes

namespace Pooling

open Binary64

/-! ### Counts that grow in step -/

/-- The count never falls as the extent grows, and it rises by one with every stride. -/
structure Growing (stride : ℤ) (count : ℤ → ℤ) : Prop where
  mono : Monotone count
  step : ∀ extent, count (extent + stride) = count extent + 1

namespace Growing

variable {S : ℤ} {first second : ℤ → ℤ}

/-- From one extent to the next the count rises by one at most, since a stride is no shorter. -/
theorem next_le (growing : Growing S first) (stridePos : 1 ≤ S) (extent : ℤ) :
    first (extent + 1) ≤ first extent + 1 := by
  rw [← growing.step extent]
  exact growing.mono (by linarith)

theorem add_one (growing : Growing S first) : Growing S fun extent => first extent + 1 :=
  ⟨fun _ _ longer => add_le_add_left (growing.mono longer) 1,
    fun extent => congrArg (· + 1) (growing.step extent)⟩

theorem max (growing : Growing S first) (other : Growing S second) :
    Growing S fun extent => Max.max (first extent) (second extent) := by
  refine ⟨growing.mono.max other.mono, fun extent => ?_⟩
  rw [growing.step, other.step, max_add_add_right]

theorem min (growing : Growing S first) (other : Growing S second) :
    Growing S fun extent => Min.min (first extent) (second extent) := by
  refine ⟨growing.mono.min other.mono, fun extent => ?_⟩
  rw [growing.step, other.step, min_add_add_right]

/-- One stride further the quotient is greater by one. -/
theorem add_stride_div (positive : 0 < S) (extent offset : ℤ) :
    ((extent + S + offset : ℤ) / S : ℚ) = (extent + offset : ℤ) / S + 1 := by
  have nonzero : (S : ℚ) ≠ 0 := by exact_mod_cast positive.ne'
  rw [add_right_comm, Int.cast_add, add_div, div_self nonzero]

theorem div_mono (positive : 0 < S) (offset : ℤ) :
    Monotone fun extent : ℤ => ((extent + offset : ℤ) / S : ℚ) := by
  intro extent longer more
  have positiveRational : (0 : ℚ) < S := by exact_mod_cast positive
  have dividends : ((extent + offset : ℤ) : ℚ) ≤ (longer + offset : ℤ) := by
    exact_mod_cast add_le_add_left more offset
  exact div_le_div_of_nonneg_right dividends positiveRational.le

theorem floor_div (positive : 0 < S) (offset : ℤ) :
    Growing S fun extent => ⌊((extent + offset : ℤ) / S : ℚ)⌋ := by
  refine ⟨Int.floor_mono.comp (div_mono positive offset), fun extent => ?_⟩
  rw [add_stride_div positive, Int.floor_add_one]

theorem ceil_div (positive : 0 < S) (offset : ℤ) :
    Growing S fun extent => ⌈((extent + offset : ℤ) / S : ℚ)⌉ := by
  refine ⟨Int.ceil_mono.comp (div_mono positive offset), fun extent => ?_⟩
  rw [add_stride_div positive, Int.ceil_add_one]

end Growing

/-! ### Windows under padding that stays -/

section Windows

variable {D K S b a : ℤ}

theorem exactSpan_eq (D K b a : ℤ) : exactSpan D K b a = D + (b + a - K) :=
  add_sub_assoc D (b + a) K

/-- Rounding up on a padded axis, the number of windows is that of the starts within the padded axis, cut
down to the starts in front of the padding behind, but by one at most. -/
theorem exactWindows_up_of_padded (stridePos : 0 < S) (padded : 0 < b + a) :
    exactWindows D K S b a true = max ⌈(exactSpan D K b a / S : ℚ)⌉
      (min (⌈(exactSpan D K b a / S : ℚ)⌉ + 1) ⌈((D + b : ℤ) / S : ℚ)⌉) := by
  -- the last window starts behind the axis exactly if no more than the others start in front
  have behind := ceil_div_le_iff (D + b) ⌈(exactSpan D K b a / S : ℚ)⌉ stridePos
  simp only [exactWindows_up, and_iff_left padded, ← behind]
  split <;> omega

theorem exactWindows_up_of_unpadded (unpadded : ¬ 0 < b + a) :
    exactWindows D K S b a true = ⌈(exactSpan D K b a / S : ℚ)⌉ + 1 := by
  rw [exactWindows_up, if_neg fun dropped => unpadded dropped.2]

/-- Under padding that stays, the windows grow in step with the axis. -/
theorem growing_exactWindows (stridePos : 0 < S) (K b a : ℤ) (ceilMode : Bool) :
    Growing S fun D => exactWindows D K S b a ceilMode := by
  cases ceilMode with
  | false =>
    simp only [exactWindows_down, exactSpan_eq]
    exact (Growing.floor_div stridePos _).add_one
  | true =>
    by_cases padded : 0 < b + a
    · simp only [exactWindows_up_of_padded stridePos padded, exactSpan_eq]
      have filled := Growing.ceil_div stridePos (b + a - K)
      exact filled.max (filled.add_one.min (Growing.ceil_div stridePos b))
    · simp only [exactWindows_up_of_unpadded padded, exactSpan_eq]
      exact (Growing.ceil_div stridePos _).add_one

/-! ### Windows under the total of a `same` mode -/

/-- Rounding up under a total, there is a window for every stride, or as many windows as without padding
if that is more. -/
theorem exactWindows_same_up (valid : ValidAxis D K S) (beforeNonneg : 0 ≤ b)
    (shared : b + a = exactSameTotal D K S) :
    exactWindows D K S b a true =
      max ⌈(D / S : ℚ)⌉ (⌈((D + -K : ℤ) / S : ℚ)⌉ + 1) := by
  -- positions are left exactly if, without padding, a window more would start within the axis
  have leaves := (ceil_div_le_iff (D + -K) (⌈(D / S : ℚ)⌉ - 1) valid.stride_pos).not
  have within := ceil_div_le_iff (D + -K) ⌈(D / S : ℚ)⌉ valid.stride_pos
  obtain ⟨reached, -⟩ := ceil_div_mul_bounds D valid.stride_pos
  have kernelPos := valid.kernel_pos
  have fewer := within.mpr (by linarith)
  have left : LeavesPositions D K S ↔ ⌈(D / S : ℚ)⌉ - 1 < ⌈((D + -K : ℤ) / S : ℚ)⌉ := by
    rw [← not_le, leaves, not_le]
    unfold LeavesPositions
    constructor <;> intro bound <;> linarith
  rw [exactWindows_same_ceil valid beforeNonneg shared]
  simp only [left]
  split <;> omega

/-- Under a total, the windows are counted by a function that grows in step with the axis. -/
theorem exists_growing_same (kernelPos : 1 ≤ K) (stridePos : 1 ≤ S) (ceilMode : Bool) :
    ∃ count, Growing S count ∧ ∀ D b a, 0 ≤ D → 0 ≤ b → b + a = exactSameTotal D K S →
      exactWindows D K S b a ceilMode = count D := by
  have strides : Growing S fun D => ⌈(D / S : ℚ)⌉ := by
    simpa only [add_zero] using Growing.ceil_div stridePos 0
  cases ceilMode with
  | false =>
    exact ⟨_, strides, fun D b a extentNonneg _ shared =>
      exactWindows_same ⟨extentNonneg, kernelPos, stridePos⟩ shared⟩
  | true =>
    exact ⟨_, strides.max (Growing.ceil_div stridePos (-K)).add_one,
      fun D b a extentNonneg beforeNonneg shared =>
        exactWindows_same_up ⟨extentNonneg, kernelPos, stridePos⟩ beforeNonneg shared⟩

/-- A stride more leaves the total as it is. -/
theorem exactSameTotal_add_stride (stridePos : 0 < S) (D K : ℤ) :
    exactSameTotal (D + S) K S = exactSameTotal D K S := by
  have step := (Growing.ceil_div stridePos 0).step D
  simp only [add_zero] at step
  unfold exactSameTotal
  rw [step]
  ring_nf

end Windows

/-! ### The output of one axis -/

/-- The extent of the output of an axis. -/
def exactOutput (padType : PadType) (kernel stride : ℤ) (listed : ℤ × ℤ) (ceilMode : Bool)
    (extent : ℤ) : ℤ :=
  let amounts := exactPadding padType extent kernel stride listed
  exactWindows extent kernel stride amounts.1 amounts.2 ceilMode

theorem exists_growing_exactOutput {K S : ℤ} (kernelPos : 1 ≤ K) (stridePos : 1 ≤ S)
    (padType : PadType) (listed : ℤ × ℤ) (ceilMode : Bool) :
    ∃ count, Growing S count ∧
      ∀ D, 0 ≤ D → exactOutput padType K S listed ceilMode D = count D := by
  cases padType with
  | valid => exact ⟨_, growing_exactWindows stridePos K 0 0 ceilMode, fun _ _ => rfl⟩
  | custom => exact ⟨_, growing_exactWindows stridePos K listed.1 listed.2 ceilMode, fun _ _ => rfl⟩
  | same =>
    obtain ⟨count, growing, counted⟩ := exists_growing_same kernelPos stridePos ceilMode
    refine ⟨count, growing, fun D extentNonneg => counted D _ _ extentNonneg ?_ ?_⟩
    · exact Int.ediv_nonneg exactSameTotal_nonneg two_pos.le
    · exact add_sub_cancel _ _
  | sameLower =>
    obtain ⟨count, growing, counted⟩ := exists_growing_same kernelPos stridePos ceilMode
    refine ⟨count, growing, fun D extentNonneg => counted D _ _ extentNonneg ?_ ?_⟩
    · have nonnegative : 0 ≤ exactSameTotal D K S := exactSameTotal_nonneg
      show 0 ≤ exactSameTotal D K S - exactSameTotal D K S / 2
      omega
    · exact sub_add_cancel _ _

section Output

variable {K S : ℤ} (kernelPos : 1 ≤ K) (stridePos : 1 ≤ S) (padType : PadType) (listed : ℤ × ℤ)
  (ceilMode : Bool) {D : ℤ} (extentNonneg : 0 ≤ D)

include kernelPos stridePos extentNonneg

theorem exactOutput_mono {longer : ℤ} (more : D ≤ longer) :
    exactOutput padType K S listed ceilMode D ≤ exactOutput padType K S listed ceilMode longer := by
  obtain ⟨count, growing, counted⟩ :=
    exists_growing_exactOutput kernelPos stridePos padType listed ceilMode
  rw [counted D extentNonneg, counted longer (extentNonneg.trans more)]
  exact growing.mono more

theorem exactOutput_next_le :
    exactOutput padType K S listed ceilMode (D + 1) ≤
      exactOutput padType K S listed ceilMode D + 1 := by
  obtain ⟨count, growing, counted⟩ :=
    exists_growing_exactOutput kernelPos stridePos padType listed ceilMode
  rw [counted D extentNonneg, counted (D + 1) (by linarith)]
  exact growing.next_le stridePos D

theorem exactOutput_add_stride :
    exactOutput padType K S listed ceilMode (D + S) =
      exactOutput padType K S listed ceilMode D + 1 := by
  obtain ⟨count, growing, counted⟩ :=
    exists_growing_exactOutput kernelPos stridePos padType listed ceilMode
  rw [counted D extentNonneg, counted (D + S) (by linarith)]
  exact growing.step D

end Output

/-- The two amounts of an axis come to no more than the kernel, or than what a caller listed. -/
theorem exactPadding_add_le (padType : PadType) {D K S bound : ℤ} (listed : ℤ × ℤ)
    (valid : ValidAxis D K S) (kernelLe : K ≤ bound)
    (listedLe : padType = .custom → listed.1 + listed.2 ≤ bound) :
    (exactPadding padType D K S listed).1 + (exactPadding padType D K S listed).2 ≤ bound := by
  have kernelPos := valid.kernel_pos
  have below := exactSameTotal_lt valid
  cases padType with
  | valid => exact zero_le_one.trans (kernelPos.trans kernelLe)
  | custom => exact listedLe rfl
  | same => simp only [exactPadding]; linarith
  | sameLower => simp only [exactPadding]; linarith

namespace Axis.Holds

variable {axis : Axis} {D K S : ℤ}

/-- The number of windows on an axis holds the exact output. -/
theorem output_holds (held : axis.Holds D K S) (padType : PadType) (listed : ℤ × ℤ)
    {first second : Binary64} (given : axis.listed = ⟨some first, some second⟩)
    (firstHeld : first.Holds listed.1) (secondHeld : second.Holds listed.2)
    (firstNonneg : 0 ≤ listed.1) (secondNonneg : 0 ≤ listed.2) (bound : ℤ) (kernelLe : K ≤ bound)
    (listedLe : padType = .custom → listed.1 + listed.2 ≤ bound)
    (bounded : D + K + S + bound ≤ 2 ^ 53) (ceilMode : Bool) :
    (axis.windows (axis.padding padType) ceilMode).Holds
      (exactOutput padType K S listed ceilMode D) := by
  have kernelPos := held.valid.kernel_pos
  obtain ⟨beforeNonneg, afterNonneg⟩ :=
    exactPadding_nonneg padType D K S listed firstNonneg secondNonneg
  have paddingLe := exactPadding_add_le padType listed held.valid kernelLe listedLe
  have padded := held.padding_holds (by linarith) padType listed given firstHeld secondHeld
  exact held.windows_holds padded beforeNonneg afterNonneg (by linarith) ceilMode

/-- A stride more leaves the padding as it is. -/
theorem padding_add_stride {further : Axis} (held : axis.Holds D K S)
    (furtherHeld : further.Holds (D + S) K S) (listed : further.listed = axis.listed)
    (bounded : D + S + K + S ≤ 2 ^ 53) (padType : PadType) :
    further.padding padType = axis.padding padType := by
  have stridePos := held.valid.stride_pos
  have total := exactSameTotal_add_stride (zero_lt_one.trans_le stridePos) D K
  cases padType with
  | valid => rfl
  | custom => exact listed
  | same => rw [furtherHeld.padding_same bounded, held.padding_same (by linarith), total]
  | sameLower =>
    rw [furtherHeld.padding_sameLower bounded, held.padding_sameLower (by linarith), total]

end Axis.Holds

end Pooling
