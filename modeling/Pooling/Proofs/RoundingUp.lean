/-
This file compares rounding up with rounding down. Every node that may round up may also round down, with
the same padding, so the two counts can be held against each other on any accepted axis. They differ by
one at most. Where the last window ends with the padded axis the quotients agree, and rounding up only
drops that window, which then starts behind the axis exactly if the padding there is at least a kernel
wide. Elsewhere rounding up counts one more, unless that one is dropped.
-/

import Pooling.Catalog
import Pooling.Proofs.Conditions
import Pooling.Proofs.HeldAxes

namespace Pooling

open Binary64

/-! ### Quotients with and without a remainder -/

theorem floor_div_mul_of_dvd {dividend divisor : ℤ} (positive : 0 < divisor)
    (divides : divisor ∣ dividend) : ⌊(dividend / divisor : ℚ)⌋ * divisor = dividend := by
  obtain ⟨quotient, rfl⟩ := divides
  rw [floor_div_eq positive (mul_comm quotient divisor).le (by linarith), mul_comm]

theorem ceil_div_of_dvd {dividend divisor : ℤ} (positive : 0 < divisor)
    (divides : divisor ∣ dividend) :
    ⌈(dividend / divisor : ℚ)⌉ = ⌊(dividend / divisor : ℚ)⌋ := by
  have quotient := floor_div_mul_of_dvd positive divides
  exact ceil_div_eq positive (by linarith) quotient.ge

theorem ceil_div_of_not_dvd {dividend divisor : ℤ} (positive : 0 < divisor)
    (remains : ¬ divisor ∣ dividend) :
    ⌈(dividend / divisor : ℚ)⌉ = ⌊(dividend / divisor : ℚ)⌋ + 1 := by
  have nonzero : (divisor : ℚ) ≠ 0 := by exact_mod_cast positive.ne'
  rw [Int.ceil_eq_floor_add_one_iff_notMem]
  rintro ⟨quotient, whole⟩
  rw [eq_div_iff nonzero] at whole
  exact remains ⟨quotient, by rw [mul_comm]; exact_mod_cast whole.symm⟩

/-! ### The two counts over the whole numbers -/

section Counts

variable {D K S b a : ℤ}

/-- Where the last window ends with the padded axis, rounding up drops it exactly if the padding behind
the axis is at least as wide as the kernel. -/
theorem exactWindows_ceil_of_dvd (kernelPos : 1 ≤ K) (stridePos : 0 < S) (beforeNonneg : 0 ≤ b)
    (divides : S ∣ exactSpan D K b a) :
    exactWindows D K S b a true =
      if K ≤ a then exactWindows D K S b a false - 1 else exactWindows D K S b a false := by
  have last := floor_div_mul_of_dvd stridePos divides
  rw [exactWindows_up, exactWindows_down, ceil_div_of_dvd stridePos divides, add_sub_cancel_right,
    last]
  have dropped : D + b ≤ exactSpan D K b a ∧ 0 < b + a ↔ K ≤ a := by
    unfold exactSpan
    constructor
    · rintro ⟨behind, -⟩
      linarith
    · intro wide
      constructor <;> linarith
  simp only [dropped]

/-- Elsewhere rounding up counts one more, unless the axis is padded and the window after those that are
counted rounding down starts behind it. -/
theorem exactWindows_ceil_of_not_dvd (stridePos : 0 < S) (beforeNonneg : 0 ≤ b)
    (afterNonneg : 0 ≤ a) (remains : ¬ S ∣ exactSpan D K b a) :
    exactWindows D K S b a true =
      if b + a = 0 ∨ exactWindows D K S b a false * S < D + b then
        exactWindows D K S b a false + 1
      else exactWindows D K S b a false := by
  rw [exactWindows_up, exactWindows_down, ceil_div_of_not_dvd stridePos remains]
  generalize (⌊(exactSpan D K b a / S : ℚ)⌋ + 1) = counted
  have kept : ¬ (D + b ≤ counted * S ∧ 0 < b + a) ↔ b + a = 0 ∨ counted * S < D + b := by
    rw [not_and_or, not_le, not_lt, or_comm]
    exact or_congr_left ⟨fun bound => by linarith, fun none => none.le⟩
  -- the program asks when the window is dropped, the statement when it is kept
  rw [← ite_not]
  simp only [kept]

end Counts

/-! ### Acceptance -/

namespace Node

/-- The node rounding down. -/
def roundingDown (node : Node) : Node :=
  { node with attributes := { node.attributes with ceilMode := some false } }

theorem resolve_roundingDown (node : Node) :
    node.roundingDown.resolve =
      ⟨node.resolve.variant, { node.resolve.parameters with ceilMode := false }⟩ := by
  cases node with
  | mk id operator input attributes outputType outputTarget => cases operator <;> rfl

/-- What rounding up asks for besides is not asked of a node that rounds down. -/
theorem meets_roundingDown {node : Node} {target : String} {padType : PadType}
    (meets : node.resolve.Meets node.input target padType) :
    node.roundingDown.resolve.Meets node.input target padType := by
  rw [resolve_roundingDown]
  refine ⟨⟨meets.elementType, meets.rank, meets.dims, fun list => ?_, meets.flat, meets.mode, ?_,
    ?_⟩, ?_, meets.target⟩
  · obtain ⟨length, whole⟩ := meets.lists list
    cases list <;> exact ⟨length, whole⟩
  · exact fun up => absurd up Bool.false_ne_true
  · exact fun up => absurd up Bool.false_ne_true
  · exact fun up => absurd up Bool.false_ne_true

end Node

/-! ### Rounding up against rounding down -/

/-- A node that is accepted, rounding up as well, is accepted rounding down on the same target, with the
same mode and the same padding. On every axis the two counts differ by one at most. Rounding up counts one window less
exactly if the stride divides the span and the padding behind the axis is at least as wide as the kernel.
It counts one more exactly if the stride does not divide the span and either there is no padding or the
window after those counted rounding down starts in front of the padding behind. So with less than a kernel
of padding behind, rounding up never counts fewer. -/
theorem rounding_up_against_rounding_down :
    (∀ (node : Node) (configuration : Configuration) (options : Options) (explanation : Explanation),
      (node.explain configuration options).result = .ok explanation →
      ∃ other, (node.roundingDown.explain configuration options).result = .ok other ∧
        other.padType = explanation.padType ∧ other.padAmounts = explanation.padAmounts) ∧
    ∀ (extent kernel stride before after : Binary64) (D K S b a : ℤ), extent.Holds D →
      kernel.Holds K → stride.Holds S → before.Holds b → after.Holds a → 0 ≤ D → 1 ≤ K → 1 ≤ S →
      0 ≤ b → 0 ≤ a → D ≤ 2 ^ 50 → K ≤ 2 ^ 50 → S ≤ 2 ^ 50 → b ≤ 2 ^ 50 → a ≤ 2 ^ 50 →
      ∃ up down : ℤ, (windowCount extent kernel stride before after true).Holds up ∧
        (windowCount extent kernel stride before after false).Holds down ∧
        (up - down = -1 ∨ up - down = 0 ∨ up - down = 1) ∧
        (up - down = -1 ↔ S ∣ D + b + a - K ∧ K ≤ a) ∧
        (up - down = 1 ↔ ¬ S ∣ D + b + a - K ∧ (b + a = 0 ∨ down * S < D + b)) ∧
        (a < K → 0 ≤ up - down ∧ up - down ≤ 1) := by
  constructor
  · intro node configuration options explanation accepted
    obtain ⟨padType, meets, rfl⟩ := Node.explain_eq_ok_iff_meets.mp accepted
    exact ⟨_, Node.explain_eq_ok_iff_meets.mpr ⟨padType, Node.meets_roundingDown meets, rfl⟩, rfl,
      rfl⟩
  · intro extent kernel stride before after D K S b a extentHeld kernelHeld strideHeld beforeHeld
      afterHeld extentNonneg kernelPos stridePos beforeNonneg afterNonneg extentSmall kernelSmall
      strideSmall beforeSmall afterSmall
    have counted := windowCount_holds extentHeld kernelHeld strideHeld beforeHeld afterHeld
      ⟨extentNonneg, kernelPos, stridePos⟩ beforeNonneg afterNonneg (by linarith)
    refine ⟨_, _, counted true, counted false, ?_⟩
    have spanEq : exactSpan D K b a = D + b + a - K := by
      unfold exactSpan
      rw [add_assoc]
    by_cases divides : S ∣ exactSpan D K b a
    · rw [exactWindows_ceil_of_dvd kernelPos stridePos beforeNonneg divides, ← spanEq]
      split <;> omega
    · rw [exactWindows_ceil_of_not_dvd stridePos beforeNonneg afterNonneg divides, ← spanEq]
      split <;> omega

/-- An axis of four positions with two units of padding on either side. Windows of two end with the padded
axis, and the last one lies in the padding behind. -/
def windowInPaddingNode : Node :=
  Node.create 1 .maxPool ⟨"fp32", .ofExtents [1, 1, 4]⟩
    { Attributes.required [2] "custom" with
      strides := some [2]
      pad := some [2, 2]
      ceilMode := some true }

theorem rounding_up_drops_the_window_in_the_padding :
    (windowInPaddingNode.explain ⟨.opset18, false⟩ ⟨none, none⟩).result =
        .ok (windowInPaddingNode.explained ⟨.custom, [4]⟩) ∧
      (∃ other, (windowInPaddingNode.roundingDown.explain ⟨.opset18, false⟩ ⟨none, none⟩).result =
          .ok other ∧ other.padAmounts = [⟨some 2, some 2⟩]) ∧
      (4 : Binary64).Holds 4 ∧ (2 : Binary64).Holds 2 ∧
      ∃ up down : ℤ, (windowCount 4 2 2 2 2 true).Holds up ∧
        (windowCount 4 2 2 2 2 false).Holds down ∧ up - down = -1 := by
  have accepted : (windowInPaddingNode.explain ⟨.opset18, false⟩ ⟨none, none⟩).result =
      .ok (windowInPaddingNode.explained ⟨.custom, [4]⟩) := by decide +kernel
  have fourHeld : (4 : Binary64).Holds 4 := holds_ofNat (n := 4) (by norm_num)
  obtain ⟨acceptance, counts⟩ := rounding_up_against_rounding_down
  obtain ⟨other, otherAccepted, -, amounts⟩ := acceptance _ _ _ _ accepted
  obtain ⟨up, down, upHeld, downHeld, -, fewer, -⟩ := counts 4 2 2 2 2 4 2 2 2 2 fourHeld holds_two
    holds_two holds_two holds_two (by norm_num) (by norm_num) (by norm_num) (by norm_num)
    (by norm_num) (by norm_num) (by norm_num) (by norm_num) (by norm_num) (by norm_num)
  exact ⟨accepted, ⟨other, otherAccepted, amounts⟩, fourHeld, holds_two, up, down, upHeld, downHeld,
    fewer.mpr ⟨by norm_num, by norm_num⟩⟩

end Pooling
