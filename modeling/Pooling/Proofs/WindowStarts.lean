/-
This file settles that the extent of the output of an accepted node is the number of places where a
window starts. Windows start at the multiples of the stride. Rounding down counts those that lie in the
padded axis; rounding up also counts one that only starts in it, but none that starts in the padding
behind the axis, unless the axis has no padding at all. The formula drops one window at most, which is
enough as long as that padding is no wider than the kernel: then the window before already starts in
front of it.
-/

import Mathlib.Data.Set.Card
import Pooling.Catalog
import Pooling.Proofs.AcceptedNode

namespace Pooling

/-! ### Starts on one axis -/

/-- The window that starts at the given multiple of the stride lies in the padded axis. -/
def FloorWindow (extent kernel stride before after : ℤ) (count : ℕ) : Prop :=
  count * stride + kernel ≤ extent + before + after

/-- A window one stride earlier than the one at the given multiple of the stride would not reach the end
of the padded axis. If the axis is padded, the window does not start in the padding behind it. -/
def CeilWindow (extent kernel stride before after : ℤ) (count : ℕ) : Prop :=
  count * stride < extent + before + after - kernel + stride ∧
    (before + after = 0 ∨ count * stride < extent + before)

/-- The starts below a bound are as many as the bound, or none if it is negative. -/
theorem encard_lt (bound : ℤ) :
    {count : ℕ | (count : ℤ) < bound}.encard = (max bound 0).toNat := by
  have initial : {count : ℕ | (count : ℤ) < bound} = Set.Iio (max bound 0).toNat := by
    ext count
    rw [Set.mem_ofPred_eq, Set.mem_Iio]
    omega
  rw [initial, ← Finset.coe_range, Set.encard_coe_eq_coe_finsetCard, Finset.card_range]

section Starts

variable {D K S b a : ℤ}

theorem floorWindow_iff (stridePos : 0 < S) (count : ℕ) :
    FloorWindow D K S b a count ↔ (count : ℤ) < exactWindows D K S b a false := by
  have counted := le_floor_div_iff (exactSpan D K b a) count stridePos
  unfold exactWindows exactFloorWindows FloorWindow
  simp only [Bool.false_eq_true, if_false]
  rw [Int.lt_add_one_iff, counted]
  unfold exactSpan
  constructor <;> intro bound <;> linarith

/-- Before one is dropped, the windows counted are those that start within a stride of the last one
that lies in the padded axis. -/
theorem lt_exactCeilWindows_iff (stridePos : 0 < S) (count : ℤ) :
    count < exactCeilWindows D K S b a ↔ count * S < D + b + a - K + S := by
  have short := (ceil_div_le_iff (exactSpan D K b a) (count - 1) stridePos).not
  rw [not_le, not_le, sub_mul, one_mul] at short
  unfold exactCeilWindows
  rw [← sub_lt_iff_lt_add, short]
  unfold exactSpan
  constructor <;> intro bound <;> linarith

theorem ceilWindow_iff (stridePos : 0 < S) (beforeNonneg : 0 ≤ b) (afterNonneg : 0 ≤ a)
    (afterLe : a ≤ K) (count : ℕ) :
    CeilWindow D K S b a count ↔ (count : ℤ) < exactWindows D K S b a true := by
  have counted := lt_exactCeilWindows_iff (D := D) (K := K) (b := b) (a := a) stridePos
  unfold CeilWindow exactWindows
  rw [← counted]
  simp only [if_true]
  generalize exactCeilWindows D K S b a = filled at counted ⊢
  split
  · rename_i dropped
    obtain ⟨behind, padded⟩ := dropped
    -- the window before the last one starts in front of the padding, for its end does
    have previous := (counted (filled - 1)).mp (by linarith)
    constructor
    · rintro ⟨inside, unpadded | inFront⟩
      · linarith
      · by_contra last
        obtain rfl : filled = count + 1 := by omega
        rw [add_sub_cancel_right] at behind
        linarith
    · intro earlier
      refine ⟨by linarith, Or.inr ?_⟩
      have steps : ((count : ℤ) + 1) * S ≤ (filled - 1) * S :=
        mul_le_mul_of_nonneg_right (by omega) stridePos.le
      linarith
  · rename_i kept
    constructor
    · exact fun start => start.1
    · intro inside
      refine ⟨inside, ?_⟩
      by_contra outside
      rw [not_or, not_lt] at outside
      have steps : (count : ℤ) * S ≤ (filled - 1) * S :=
        mul_le_mul_of_nonneg_right (by omega) stridePos.le
      exact kept ⟨by linarith, lt_of_le_of_ne (by linarith) (Ne.symm outside.1)⟩

end Starts

/-! ### Starts on the axes of an accepted node -/

/-- The extent of the output on every axis of an accepted node is the number of window starts. -/
theorem explain_counts_windows (node : Node) (configuration : Configuration) (options : Options)
    (explanation : Explanation)
    (accepted : (node.explain configuration options).result = .ok explanation)
    (axis : ℕ) (spatial : axis < node.input.rank - 2) :
    ∃ D K S : ℤ, node.HasAxis axis D K S ∧ 0 ≤ D ∧ 1 ≤ K ∧ 1 ≤ S ∧
      (D ≤ 2 ^ 50 → K ≤ 2 ^ 50 → S ≤ 2 ^ 50 →
        ∃ b a : ℤ, explanation.HasAmounts axis b a ∧ 0 ≤ b ∧ 0 ≤ a ∧
          (explanation.padType ≠ .custom → a ≤ K) ∧
          (b ≤ 2 ^ 50 → a ≤ 2 ^ 50 →
            ∃ out : ℤ, explanation.HasOutput axis out ∧
              (node.attributes.ceilMode ≠ some true →
                {k : ℕ | FloorWindow D K S b a k}.encard = (max out 0).toNat) ∧
              (node.attributes.ceilMode = some true → a ≤ K →
                {k : ℕ | CeilWindow D K S b a k}.encard = (max out 0).toNat))) := by
  obtain ⟨valid, validated, rfl⟩ :=
    Node.explanation_eq_ok_iff.mp (Node.explain_eq_ok_iff.mp accepted)
  obtain ⟨acceptedAxis, D, K, S, first, second, holds⟩ := exists_acceptedAxis validated spatial
  obtain ⟨extentNonneg, kernelPos, stridePos⟩ := holds.holds.valid
  refine ⟨D, K, S, holds.hasAxis, extentNonneg, kernelPos, stridePos, ?_⟩
  intro extentSmall kernelSmall strideSmall
  obtain ⟨amounts, output⟩ := holds.reported (by linarith)
  obtain ⟨beforeNonneg, afterNonneg⟩ := exactPadding_nonneg valid.padType D K S (first, second)
    holds.before_nonneg holds.after_nonneg
  have afterLt := exactPadding_after_lt valid.padType (first, second) holds.holds.valid
  generalize exactPadding valid.padType D K S (first, second) = padding at *
  obtain ⟨b, a⟩ := padding
  refine ⟨b, a, amounts, beforeNonneg, afterNonneg, fun computed => (afterLt computed).le, ?_⟩
  intro beforeSmall afterSmall
  have bounded : D + K + S + b + a ≤ 2 ^ 53 := by linarith
  have small := abs_exactWindows_le holds.holds.valid beforeNonneg afterNonneg bounded
  refine ⟨_, ⟨_, output bounded, Binary64.holds_ofInt (small _)⟩, ?_, ?_⟩
  · intro down
    have counted := floorWindow_iff (D := D) (K := K) (b := b) (a := a) stridePos
    show _ = ((max (exactWindows D K S b a node.resolve.parameters.ceilMode) 0).toNat : ℕ∞)
    rw [Bool.eq_false_iff.mpr (node.ceilMode_resolve_iff.not.mpr down), ← encard_lt]
    simp only [counted]
  · intro up afterLe
    have counted := ceilWindow_iff (D := D) (b := b) stridePos beforeNonneg afterNonneg afterLe
    show _ = ((max (exactWindows D K S b a node.resolve.parameters.ceilMode) 0).toNat : ℕ∞)
    rw [node.ceilMode_resolve_iff.mpr up, ← encard_lt]
    simp only [counted]

/-- An axis of five positions and windows of two, one after the other. Rounding up counts a third window
for the position that two of them leave. -/
def positionBehindNode (ceilMode : Option Bool) : Node :=
  Node.create 1 .avgPool ⟨"fp32", .ofExtents [1, 1, 5]⟩
    { Attributes.required [2] "valid" with
      strides := some [2]
      ceilMode := ceilMode }

theorem explain_counts_windows_either_way :
    (∀ ceilMode, ((positionBehindNode ceilMode).explain ⟨.opset18, false⟩ ⟨none, none⟩).result =
        .ok ((positionBehindNode ceilMode).explained ⟨.valid, [5]⟩)) ∧
      0 < (positionBehindNode none).input.rank - 2 ∧
      {k : ℕ | FloorWindow 5 2 2 0 0 k}.encard = 2 ∧ {k : ℕ | CeilWindow 5 2 2 0 0 k}.encard = 3 := by
  have accepted (ceilMode : Option Bool) :
      ((positionBehindNode ceilMode).explain ⟨.opset18, false⟩ ⟨none, none⟩).result =
        .ok ((positionBehindNode ceilMode).explained ⟨.valid, [5]⟩) := by
    rcases ceilMode with _ | _ | _ <;> decide +kernel
  have spatial (ceilMode : Option Bool) : 0 < (positionBehindNode ceilMode).input.rank - 2 :=
    Nat.zero_lt_one
  have axisHeld (ceilMode : Option Bool) : (positionBehindNode ceilMode).HasAxis 0 5 2 2 :=
    ⟨⟨5, rfl, Binary64.holds_ofNat (by norm_num)⟩, ⟨2, rfl, Binary64.holds_two⟩,
      ⟨2, rfl, Binary64.holds_two⟩⟩
  have amountsHeld (ceilMode : Option Bool) :
      ((positionBehindNode ceilMode).explained ⟨.valid, [5]⟩).HasAmounts 0 0 0 :=
    ⟨0, 0, rfl, Binary64.holds_zero, Binary64.holds_zero⟩
  have counted (ceilMode : Option Bool) (count : ℤ)
      (outputHeld : ((positionBehindNode ceilMode).explained ⟨.valid, [5]⟩).HasOutput 0 count) :
      (ceilMode ≠ some true → {k : ℕ | FloorWindow 5 2 2 0 0 k}.encard = (max count 0).toNat) ∧
        (ceilMode = some true →
          {k : ℕ | CeilWindow 5 2 2 0 0 k}.encard = (max count 0).toNat) := by
    obtain ⟨D, K, S, axisAt, -, -, -, small⟩ := explain_counts_windows
      (positionBehindNode ceilMode) _ _ _ (accepted ceilMode) 0 (spatial ceilMode)
    obtain ⟨rfl, rfl, rfl⟩ := axisAt.unique (axisHeld ceilMode)
    obtain ⟨b, a, amountsAt, -, -, -, smallAmounts⟩ :=
      small (by norm_num) (by norm_num) (by norm_num)
    obtain ⟨rfl, rfl⟩ := amountsAt.unique (amountsHeld ceilMode)
    obtain ⟨out, outputAt, down, up⟩ := smallAmounts (by norm_num) (by norm_num)
    obtain rfl := outputAt.unique outputHeld
    exact ⟨down, fun isUp => up isUp (by norm_num)⟩
  exact ⟨accepted, spatial none,
    (counted none 2 ⟨2, by decide +kernel, Binary64.holds_two⟩).1 (by decide),
    (counted (some true) 3 ⟨3, by decide +kernel, Binary64.holds_ofNat (by norm_num)⟩).2 rfl⟩

end Pooling
