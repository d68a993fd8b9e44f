/-
This file settles for which kernels, strides and amounts of padding rounding up counts no window past the
input, whatever the extent of the axis is. The formula drops one window at most, and none from an axis
without padding. So it is right exactly if the padding behind the axis is no wider than the kernel, or, on
an axis without padding, if no positions are skipped between one window and the next. In every other case
an extent shows it: the empty axis if there is no padding, and otherwise the least extent that puts the
padding behind the axis at a multiple of the stride.
-/

import Pooling.Proofs.WindowStarts

namespace Pooling

open Binary64

/-! ### The last window over the whole numbers -/

/-- The last of the windows counted, if any is, starts in front of the padding behind the axis. -/
def LastStartsInside (extent stride before windows : ℤ) : Prop :=
  1 ≤ windows → (windows - 1) * stride < extent + before

/-- Kernel, stride and padding let rounding up count no window past the input. -/
def CountsInside (kernel stride before after : ℤ) : Prop :=
  (before + after = 0 ∧ stride ≤ kernel) ∨ (0 < before + after ∧ after ≤ kernel)

section LastWindow

variable {D K S b a : ℤ}

/-- Where the formula counts the window starts, it counts the last window among them. -/
theorem lastStartsInside (stridePos : 0 < S) (beforeNonneg : 0 ≤ b) (afterNonneg : 0 ≤ a)
    (kernelPos : 1 ≤ K) (inside : CountsInside K S b a) :
    LastStartsInside D S b (exactWindows D K S b a true) := by
  have afterLe : a ≤ K := by
    rcases inside with ⟨unpadded, -⟩ | ⟨-, narrow⟩
    · linarith
    · exact narrow
  intro counted
  obtain ⟨count, last⟩ :=
    Int.eq_ofNat_of_zero_le (sub_nonneg.mpr counted : 0 ≤ exactWindows D K S b a true - 1)
  obtain ⟨reaches, unpadded | inFront⟩ :=
    (ceilWindow_iff stridePos beforeNonneg afterNonneg afterLe count).mpr (by linarith)
  · rcases inside with ⟨-, dense⟩ | ⟨padded, -⟩
    · rw [last]
      linarith
    · exact absurd unpadded padded.ne'
  · rw [last]
    exact inFront

/-- At most one window is dropped. -/
theorem exactCeilWindows_le : exactCeilWindows D K S b a - 1 ≤ exactWindows D K S b a true := by
  simp only [exactWindows, if_true]
  split <;> linarith

/-- Between windows that are further apart than they are wide, the empty axis without padding counts one
that starts behind it. -/
theorem not_lastStartsInside_empty (kernelPos : 1 ≤ K) (sparse : K < S) :
    ¬ LastStartsInside 0 S 0 (exactWindows 0 K S 0 0 true) := by
  have first : ⌈(exactSpan 0 K 0 0 / S : ℚ)⌉ = 0 := by
    unfold exactSpan
    exact ceil_div_eq (by linarith) (by linarith) (by linarith)
  have one : exactWindows 0 K S 0 0 true = 1 := by
    unfold exactWindows exactCeilWindows
    rw [first]
    simp
  rw [one]
  intro inside
  have start := inside le_rfl
  linarith

/-- Padding that is wider than the kernel has room for two starts if it begins at a multiple of the stride,
and only one of them is dropped. -/
theorem not_lastStartsInside_wide {starts : ℤ} (stridePos : 0 < S) (startsNonneg : 0 ≤ starts)
    (edge : D + b = starts * S) (wide : K < a) :
    ¬ LastStartsInside D S b (exactWindows D K S b a true) := by
  obtain ⟨reached, -⟩ := ceil_div_mul_bounds (exactSpan D K b a) stridePos
  have behind : starts < ⌈(exactSpan D K b a / S : ℚ)⌉ := by
    refine lt_of_mul_lt_mul_right ?_ stridePos.le
    unfold exactSpan at reached ⊢
    linarith
  have counted : starts + 1 ≤ exactWindows D K S b a true := by
    have kept := exactCeilWindows_le (D := D) (K := K) (S := S) (b := b) (a := a)
    unfold exactCeilWindows at kept
    linarith
  intro inside
  have start := inside (by linarith)
  have steps : starts * S ≤ (exactWindows D K S b a true - 1) * S :=
    mul_le_mul_of_nonneg_right (by linarith) stridePos.le
  linarith

/-- For every amount in front there is an extent below the stride that puts the end of the axis at a
multiple of the stride. -/
theorem exists_edge (stridePos : 0 < S) (beforeNonneg : 0 ≤ b) :
    ∃ extent starts : ℤ, 0 ≤ extent ∧ extent < S ∧ 0 ≤ starts ∧ extent + b = starts * S := by
  refine ⟨-b % S, -(-b / S), Int.emod_nonneg _ stridePos.ne', Int.emod_lt_of_pos _ stridePos, ?_, ?_⟩
  · exact neg_nonneg.mpr (Int.ediv_nonpos_of_nonpos_of_neg (neg_nonpos.mpr beforeNonneg) stridePos)
  · have parts := Int.emod_add_mul_ediv (-b) S
    linarith [mul_comm S (-b / S)]

/-- Unless kernel, stride and padding let it count inside, rounding up counts a window past some input. -/
theorem exists_not_lastStartsInside (kernelPos : 1 ≤ K) (stridePos : 1 ≤ S) (beforeNonneg : 0 ≤ b)
    (afterNonneg : 0 ≤ a) (outside : ¬ CountsInside K S b a) :
    ∃ extent, 0 ≤ extent ∧ extent < S ∧
      ¬ LastStartsInside extent S b (exactWindows extent K S b a true) := by
  rw [CountsInside, not_or, not_and_or, not_and_or, not_le, not_lt, not_le] at outside
  rcases (add_nonneg beforeNonneg afterNonneg).eq_or_lt with unpadded | padded
  · obtain ⟨rfl, rfl⟩ : b = 0 ∧ a = 0 := by omega
    have sparse : K < S := outside.1.resolve_left (not_not.mpr rfl)
    exact ⟨0, le_rfl, by linarith, not_lastStartsInside_empty kernelPos sparse⟩
  · have wide : K < a := outside.2.resolve_left (not_le.mpr padded)
    obtain ⟨extent, starts, extentNonneg, short, startsNonneg, edge⟩ :=
      exists_edge stridePos beforeNonneg
    exact ⟨extent, extentNonneg, short, not_lastStartsInside_wide stridePos startsNonneg edge wide⟩

end LastWindow

/-! ### The last window counted by the program -/

/-- For every kernel, stride and padding, rounding up counts a whole number of windows on every axis. The
last of them starts in front of the padding behind the axis for every extent exactly if the axis has no
padding and the stride is no wider than the kernel, or the axis is padded and the padding behind it is no
wider than the kernel. -/
theorem ceil_counts_inside_iff {kernel stride before after : Binary64} {K S b a : ℤ}
    (kernelHeld : kernel.Holds K) (strideHeld : stride.Holds S) (beforeHeld : before.Holds b)
    (afterHeld : after.Holds a) (kernelPos : 1 ≤ K) (stridePos : 1 ≤ S) (beforeNonneg : 0 ≤ b)
    (afterNonneg : 0 ≤ a) (kernelSmall : K ≤ 2 ^ 50) (strideSmall : S ≤ 2 ^ 50)
    (beforeSmall : b ≤ 2 ^ 50) (afterSmall : a ≤ 2 ^ 50) :
    (∀ (extent : Binary64) (D : ℤ), extent.Holds D → 0 ≤ D → D ≤ 2 ^ 50 →
      ∃ out : ℤ, (windowCount extent kernel stride before after true).Holds out) ∧
    ((∀ (extent : Binary64) (D out : ℤ), extent.Holds D → 0 ≤ D → D ≤ 2 ^ 50 →
        (windowCount extent kernel stride before after true).Holds out →
        1 ≤ out → (out - 1) * S < D + b) ↔
      (b + a = 0 ∧ S ≤ K) ∨ (0 < b + a ∧ a ≤ K)) := by
  have counted {extent : Binary64} {D : ℤ} (extentHeld : extent.Holds D) (extentNonneg : 0 ≤ D)
      (extentSmall : D ≤ 2 ^ 50) : (windowCount extent kernel stride before after true).Holds
        (exactWindows D K S b a true) := by
    have valid : ValidAxis D K S := ⟨extentNonneg, kernelPos, stridePos⟩
    have bounded : D + K + S + b + a ≤ 2 ^ 53 := by linarith
    rw [windowCount_eq extentHeld kernelHeld strideHeld beforeHeld afterHeld valid beforeNonneg
      afterNonneg bounded]
    exact holds_ofInt (abs_exactWindows_le valid beforeNonneg afterNonneg bounded true)
  refine ⟨fun extent D held low high => ⟨_, counted held low high⟩, ?_, ?_⟩
  · intro allInside
    by_contra outside
    obtain ⟨D, extentNonneg, short, behind⟩ :=
      exists_not_lastStartsInside kernelPos stridePos beforeNonneg afterNonneg outside
    have extentSmall : D ≤ 2 ^ 50 := by linarith
    have extentHeld : (ofInt D).Holds D :=
      holds_ofInt (abs_le.mpr ⟨by linarith, by linarith⟩)
    exact behind (allInside _ D _ extentHeld extentNonneg extentSmall
      (counted extentHeld extentNonneg extentSmall))
  · intro inside extent D out extentHeld extentNonneg extentSmall outHeld
    obtain rfl := outHeld.unique (counted extentHeld extentNonneg extentSmall)
    exact lastStartsInside stridePos beforeNonneg afterNonneg kernelPos inside

/-- Behind an axis with three units of padding and a kernel of two, some extent has a window too many. -/
theorem wide_padding_counts_a_window_behind :
    (2 : Binary64).Holds 2 ∧ (1 : Binary64).Holds 1 ∧ (3 : Binary64).Holds 3 ∧
      ¬ ∀ (extent : Binary64) (D out : ℤ), extent.Holds D → 0 ≤ D → D ≤ 2 ^ 50 →
        (windowCount extent 2 2 1 3 true).Holds out → 1 ≤ out → (out - 1) * 2 < D + 1 := by
  have threeHeld : (3 : Binary64).Holds 3 := holds_ofNat (n := 3) (by norm_num)
  obtain ⟨-, inside⟩ := ceil_counts_inside_iff holds_two holds_two holds_one threeHeld
    (by norm_num) (by norm_num) (by norm_num) (by norm_num) (by norm_num) (by norm_num)
    (by norm_num) (by norm_num)
  refine ⟨holds_two, holds_one, threeHeld, fun allInside => ?_⟩
  rcases inside.mp allInside with ⟨unpadded, -⟩ | ⟨-, narrow⟩
  · norm_num at unpadded
  · norm_num at narrow

end Pooling
