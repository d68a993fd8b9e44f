/-
This file compares the two `same` modes. They share the total, and they exchange the amounts in front of
an axis and behind it. Rounding down, both leave one window for every stride of the axis, the last one
perhaps begun. Rounding up is open to `sameLower` only, and there the total matters: it is computed for
rounding down and cannot be negative. Where it would be, because the strides leave positions behind the
last window, rounding up counts one more window, and an axis without padding never drops one.
-/

import Pooling.Catalog
import Pooling.Proofs.AcceptedNode

namespace Pooling

open Binary64

/-! ### Windows under the total of a `same` mode -/

/-- Without padding, positions are left behind the last of `⌈extent / stride⌉` windows. -/
def LeavesPositions (extent kernel stride : ℤ) : Prop :=
  (⌈(extent / stride : ℚ)⌉ - 1) * stride + kernel < extent

instance (extent kernel stride : ℤ) : Decidable (LeavesPositions extent kernel stride) :=
  inferInstanceAs (Decidable (_ < _))

section SameWindows

variable {D K S b a : ℤ}

/-- Under the total of a `same` mode, the last window ends with the padded axis, or positions are left.
-/
theorem exactSpan_of_total (shared : b + a = exactSameTotal D K S) :
    exactSpan D K b a = max ((⌈(D / S : ℚ)⌉ - 1) * S) (D - K) := by
  unfold exactSpan
  rw [shared]
  unfold exactSameTotal
  omega

/-- Rounding down, there is one window for every stride of the axis. -/
theorem exactWindows_same (valid : ValidAxis D K S) (shared : b + a = exactSameTotal D K S) :
    exactWindows D K S b a false = ⌈(D / S : ℚ)⌉ := by
  obtain ⟨extentNonneg, kernelPos, stridePos⟩ := valid
  obtain ⟨low, high⟩ := ceil_div_mul_bounds D stridePos
  have span := exactSpan_of_total shared
  simp only [exactWindows, exactFloorWindows, Bool.false_eq_true, if_false]
  generalize ⌈(D / S : ℚ)⌉ = windows at low high span ⊢
  have last : ⌊(exactSpan D K b a / S : ℚ)⌋ = windows - 1 := by
    refine floor_div_eq stridePos ?_ ?_ <;> rw [span]
    · exact le_max_left _ _
    · rw [sub_mul, one_mul, max_lt_iff]
      constructor <;> linarith
  rw [last, sub_add_cancel]

/-- Rounding up, there is one window more if positions are left behind them. -/
theorem exactWindows_same_ceil (valid : ValidAxis D K S) (beforeNonneg : 0 ≤ b)
    (shared : b + a = exactSameTotal D K S) :
    exactWindows D K S b a true =
      if LeavesPositions D K S then ⌈(D / S : ℚ)⌉ + 1 else ⌈(D / S : ℚ)⌉ := by
  obtain ⟨extentNonneg, kernelPos, stridePos⟩ := valid
  obtain ⟨low, high⟩ := ceil_div_mul_bounds D stridePos
  have span := exactSpan_of_total shared
  simp only [exactWindows, exactCeilWindows, if_true, add_sub_cancel_right]
  unfold exactSameTotal at shared
  by_cases leaves : LeavesPositions D K S
  · rw [if_pos leaves]
    unfold LeavesPositions at leaves
    generalize ⌈(D / S : ℚ)⌉ = windows at low high span shared leaves ⊢
    have unpadded : b + a = 0 := by
      rw [shared, max_eq_right]
      linarith
    have last : ⌈(exactSpan D K b a / S : ℚ)⌉ = windows := by
      rw [max_eq_right (by linarith)] at span
      refine ceil_div_eq stridePos ?_ ?_ <;> rw [span] <;> linarith
    rw [if_neg (fun dropped => by linarith [dropped.2]), last]
  · rw [if_neg leaves]
    unfold LeavesPositions at leaves
    generalize ⌈(D / S : ℚ)⌉ = windows at low high span shared leaves ⊢
    have last : ⌈(exactSpan D K b a / S : ℚ)⌉ = windows - 1 := by
      rw [max_eq_left (by linarith)] at span
      refine ceil_div_eq stridePos ?_ ?_ <;> rw [span]
      linarith
    rw [last, if_neg, sub_add_cancel]
    rintro ⟨behind, -⟩
    linarith

end SameWindows

/-! ### The modes on one axis -/

/-- The padding with its two sides exchanged. -/
def Padding.exchanged (padding : Padding) : Padding :=
  ⟨padding.after, padding.before⟩

/-- The number of windows under `sameLower`. -/
def sameLowerWindows (extent kernel stride : ℤ) (ceilMode : Bool) : ℤ :=
  if ceilMode = true ∧ LeavesPositions extent kernel stride then ⌈(extent / stride : ℚ)⌉ + 1
  else ⌈(extent / stride : ℚ)⌉

namespace Axis.Holds

variable {axis : Axis} {D K S : ℤ}

theorem padding_exchanged (held : axis.Holds D K S) (bounded : D + 2 * K + S ≤ 2 ^ 53) :
    axis.padding .sameLower = (axis.padding .same).exchanged := by
  have kernelPos := held.valid.kernel_pos
  rw [held.padding_same (by linarith), held.padding_sameLower (by linarith)]
  rfl

/-- The two sides may share the total in any way. -/
theorem windows_of_total (held : axis.Holds D K S) (bounded : D + 2 * K + S ≤ 2 ^ 53) {b a : ℤ}
    (beforeNonneg : 0 ≤ b) (afterNonneg : 0 ≤ a) (shared : b + a = exactSameTotal D K S)
    (ceilMode : Bool) :
    axis.windows ⟨some (ofInt b), some (ofInt a)⟩ ceilMode =
      ofInt (exactWindows D K S b a ceilMode) := by
  have below := exactSameTotal_lt held.valid
  obtain ⟨extentNonneg, kernelPos, stridePos⟩ := held.valid
  refine held.windows_eq (holds_ofInt ?_) (holds_ofInt ?_) beforeNonneg afterNonneg (by linarith) _
  · rw [abs_of_nonneg beforeNonneg]
    linarith
  · rw [abs_of_nonneg afterNonneg]
    linarith

theorem windows_same (held : axis.Holds D K S) (bounded : D + 2 * K + S ≤ 2 ^ 53) :
    axis.windows (axis.padding .same) false = ofInt ⌈(D / S : ℚ)⌉ := by
  have nonnegative : 0 ≤ exactSameTotal D K S := exactSameTotal_nonneg
  have kernelPos := held.valid.kernel_pos
  have shared := add_sub_cancel (exactSameTotal D K S / 2) (exactSameTotal D K S)
  rw [held.padding_same (by linarith),
    held.windows_of_total bounded (by omega) (by omega) shared, exactWindows_same held.valid shared]

theorem windows_sameLower (held : axis.Holds D K S) (bounded : D + 2 * K + S ≤ 2 ^ 53)
    (ceilMode : Bool) :
    axis.windows (axis.padding .sameLower) ceilMode = ofInt (sameLowerWindows D K S ceilMode) := by
  have nonnegative : 0 ≤ exactSameTotal D K S := exactSameTotal_nonneg
  have kernelPos := held.valid.kernel_pos
  have shared := sub_add_cancel (exactSameTotal D K S) (exactSameTotal D K S / 2)
  rw [held.padding_sameLower (by linarith),
    held.windows_of_total bounded (by omega) (by omega) shared]
  cases ceilMode with
  | false => rw [exactWindows_same held.valid shared, sameLowerWindows, if_neg (by simp)]
  | true =>
    rw [exactWindows_same_ceil held.valid (by omega) shared, sameLowerWindows]
    simp only [true_and]

end Axis.Holds

/-! ### The modes of a node -/

namespace Node

/-- The node with the mode `same`, rounding down. -/
def withSame (node : Node) : Node :=
  { node with attributes := { node.attributes with padType := "same", ceilMode := some false } }

theorem resolve_withSame (node : Node) :
    node.withSame.resolve = ⟨node.resolve.variant,
      { node.resolve.parameters with padType := "same", ceilMode := false }⟩ := by
  cases node with
  | mk id operator input attributes outputType outputTarget => cases operator <;> rfl

/-- A node that is accepted at all is accepted under `same`, rounding down, on the same target. -/
theorem validate_withSame {node : Node} {target : String} {valid : Validated}
    (accepted : node.resolve.validate node.input target = .ok valid) :
    node.withSame.resolve.validate node.withSame.input target = .ok ⟨.same, valid.extents⟩ := by
  obtain ⟨all, -, dims⟩ :=
    (validate_eq_ok_iff isLowerCasing_toLower node.resolve node.input target valid).mp accepted
  have lowered : "same".toLower = "same" := by decide +kernel
  refine (validate_eq_ok_iff isLowerCasing_toLower _ _ target _).mpr ⟨?_, ?_, dims⟩
  · rw [resolve_withSame]
    simp only [ResolvedPool.requirements, List.forall_mem_append] at all ⊢
    obtain ⟨⟨⟨⟨⟨inputs, lists⟩, operator⟩, -⟩, -⟩, -⟩ := all
    refine ⟨⟨⟨⟨⟨inputs, lists⟩, operator⟩, ?_⟩, ?_⟩, ?_⟩
    · exact List.forall_mem_singleton.mpr (by rw [lowered]; decide)
    · exact rounding_of_down (by simp) _ _
    · exact List.forall_mem_singleton.mpr fun _ => by rw [lowered]; decide
  · rw [resolve_withSame]
    exact lowered

/-- No extent, kernel or stride of a spatial axis is above the bound. -/
def SpatialAtMost (node : Node) (bound : ℤ) : Prop :=
  ∀ axis D K S, node.HasAxis axis D K S → D ≤ bound ∧ K ≤ bound ∧ S ≤ bound

end Node

namespace AcceptedAxis

variable {node : Node} {valid : Validated} {index : ℕ} {axis : Axis} {D K S b a : ℤ}

theorem withSame (accepted : AcceptedAxis node valid index axis D K S b a) :
    AcceptedAxis node.withSame ⟨.same, valid.extents⟩ index axis D K S b a :=
  ⟨accepted.found, accepted.extentAt, accepted.kernelAt, accepted.strideAt, accepted.beforeAt,
    accepted.afterAt, accepted.listed, accepted.holds, accepted.before_nonneg, accepted.after_nonneg⟩

theorem bounded (accepted : AcceptedAxis node valid index axis D K S b a)
    (small : node.SpatialAtMost (2 ^ 50)) : D + 2 * K + S ≤ 2 ^ 53 := by
  obtain ⟨extentSmall, kernelSmall, strideSmall⟩ := small index D K S accepted.hasAxis
  linarith

/-- The number of strides of an axis is a number that the format holds. -/
theorem strides_bounds (accepted : AcceptedAxis node valid index axis D K S b a)
    (small : node.SpatialAtMost (2 ^ 50)) :
    0 ≤ ⌈(D / S : ℚ)⌉ ∧ ⌈(D / S : ℚ)⌉ < 2 ^ 51 := by
  obtain ⟨extentSmall, -, -⟩ := small index D K S accepted.hasAxis
  obtain ⟨extentNonneg, -, stridePos⟩ := accepted.holds.valid
  obtain ⟨nonnegative, fewer⟩ := ceil_div_bounds extentNonneg stridePos
  exact ⟨nonnegative, by linarith⟩

theorem hasOutput_same (accepted : AcceptedAxis node valid index axis D K S b a)
    (small : node.SpatialAtMost (2 ^ 50)) :
    (node.withSame.explained ⟨.same, valid.extents⟩).HasOutput index ⌈(D / S : ℚ)⌉ := by
  obtain ⟨nonnegative, below⟩ := accepted.strides_bounds small
  have windows := accepted.holds.windows_same (accepted.bounded small)
  refine ⟨_, accepted.withSame.outputAt, ?_⟩
  show (axis.windows (axis.padding .same) false).Holds _
  rw [windows]
  exact holds_ofInt (by rw [abs_of_nonneg nonnegative]; linarith)

theorem hasOutput_sameLower (accepted : AcceptedAxis node valid index axis D K S b a)
    (lower : valid.padType = .sameLower) (small : node.SpatialAtMost (2 ^ 50)) :
    (node.explained valid).HasOutput index
      (sameLowerWindows D K S node.resolve.parameters.ceilMode) := by
  obtain ⟨nonnegative, below⟩ := accepted.strides_bounds small
  have windows := accepted.holds.windows_sameLower (accepted.bounded small)
    node.resolve.parameters.ceilMode
  refine ⟨_, accepted.outputAt, ?_⟩
  rw [lower, windows]
  refine holds_ofInt ?_
  unfold sameLowerWindows
  split
  · rw [abs_of_nonneg (by linarith)]
    linarith
  · rw [abs_of_nonneg nonnegative]
    linarith

end AcceptedAxis

/-- A node under `sameLower` reports the amounts of the same node under `same`, rounding down, with the
two sides exchanged. Under `same` the output has one window for every stride of an axis. Under
`sameLower` it has as many, except that rounding up counts one more on an axis that leaves positions
behind the last of them; so the output types are equal unless rounding up meets such an axis. -/
theorem sameLower_exchanges_same (lower : String → String) (lowerCasing : IsLowerCasing lower)
    (node : Node) (configuration : Configuration) (options : Options) (explanation : Explanation)
    (accepted : (node.explain configuration options).result = .ok explanation)
    (mode : lower node.attributes.padType = "same_lower") (small : node.SpatialAtMost (2 ^ 50)) :
    options.targetUnder configuration ≠ "opset15" ∧
    ∃ other, (node.withSame.explain configuration options).result = .ok other ∧
      explanation.padAmounts = other.padAmounts.map Padding.exchanged ∧
      (∀ axis D K S, node.HasAxis axis D K S →
        other.HasOutput axis ⌈(D / S : ℚ)⌉ ∧
          explanation.HasOutput axis
            (sameLowerWindows D K S (node.attributes.ceilMode.getD false))) ∧
      (explanation.outputType = other.outputType ↔
        ∀ axis D K S, node.HasAxis axis D K S →
          node.attributes.ceilMode = some true → ¬ LeavesPositions D K S) := by
  obtain ⟨valid, validated, rfl⟩ :=
    Node.explanation_eq_ok_iff.mp (Node.explain_eq_ok_iff.mp accepted)
  obtain ⟨all, named, -⟩ := (validate_eq_ok_iff lowerCasing _ _ _ valid).mp validated
  have isLower : valid.padType = .sameLower := PadType.name_injective (named.symm.trans mode)
  have outputs : ∀ axis D K S, node.HasAxis axis D K S →
      (node.withSame.explained ⟨.same, valid.extents⟩).HasOutput axis ⌈(D / S : ℚ)⌉ ∧
        (node.explained valid).HasOutput axis
          (sameLowerWindows D K S node.resolve.parameters.ceilMode) := by
    intro index D K S has
    obtain ⟨axis, D', K', S', b, a, holds⟩ := exists_acceptedAxis validated has.inside
    obtain ⟨rfl, rfl, rfl⟩ := holds.hasAxis.unique has
    exact ⟨holds.hasOutput_same small, holds.hasOutput_sameLower isLower small⟩
  refine ⟨fun early => ResolvedPool.target_supported all early mode,
    node.withSame.explained ⟨.same, valid.extents⟩, ?_, ?_, outputs, ?_, ?_⟩
  · exact Node.explain_eq_ok_iff.mpr
      (Node.explanation_eq_ok_iff.mpr ⟨_, Node.validate_withSame validated, rfl⟩)
  · have exchanged : ∀ axis ∈ node.checkedAxes valid,
        axis.padding .sameLower = (axis.padding .same).exchanged := by
      intro axis member
      obtain ⟨index, D, K, S, b, a, holds⟩ := exists_acceptedAxis_of_mem validated member
      exact holds.holds.padding_exchanged (holds.bounded small)
    rw [Node.padAmounts_explained, Node.padAmounts_explained, List.map_map, isLower]
    exact List.map_congr_left exchanged
  · intro equal index D K S has up leaves
    obtain ⟨fewer, more⟩ := outputs index D K S has
    have same : (node.explained valid).HasOutput index ⌈(D / S : ℚ)⌉ := by
      unfold Explanation.HasOutput
      rw [equal]
      exact fewer
    have counted := more.unique same
    rw [sameLowerWindows, if_pos ⟨node.ceilMode_resolve_iff.mpr up, leaves⟩] at counted
    linarith
  · intro reached
    have alike : ∀ axis ∈ node.checkedAxes valid,
        axis.windows (axis.padding .sameLower) node.resolve.parameters.ceilMode =
          axis.windows (axis.padding .same) false := by
      intro axis member
      obtain ⟨index, D, K, S, b, a, holds⟩ := exists_acceptedAxis_of_mem validated member
      have bounded := holds.bounded small
      have ends := reached index D K S holds.hasAxis
      rw [holds.holds.windows_sameLower bounded, holds.holds.windows_same bounded, sameLowerWindows,
        if_neg fun more => ends (node.ceilMode_resolve_iff.mp more.1) more.2]
    rw [Node.outputType_explained, Node.outputType_explained, isLower, List.map_congr_left alike]
    rfl

/-- An axis of ten positions with a kernel of one and a stride of four, rounding up. Three windows
leave the tenth position behind. -/
def positionLeftNode : Node :=
  Node.create 1 .maxPool ⟨"fp32", .ofExtents [1, 1, 10]⟩
    { Attributes.required [1] "same_lower" with
      strides := some [4]
      ceilMode := some true }

/-- Rounding up, the two modes differ on an axis that leaves positions behind. -/
theorem sameLower_differs_from_same :
    ∃ explanation other,
      (positionLeftNode.explain ⟨.opset18, false⟩ ⟨none, none⟩).result = .ok explanation ∧
        (positionLeftNode.withSame.explain ⟨.opset18, false⟩ ⟨none, none⟩).result = .ok other ∧
        positionLeftNode.attributes.padType.toLower = "same_lower" ∧
        positionLeftNode.HasAxis 0 10 1 4 ∧
        explanation.outputType = ⟨"fp32", .ofExtents [1, 1, 4]⟩ ∧
        other.outputType = ⟨"fp32", .ofExtents [1, 1, 3]⟩ ∧
        explanation.outputType ≠ other.outputType := by
  refine ⟨positionLeftNode.explained ⟨.sameLower, [10]⟩,
    positionLeftNode.withSame.explained ⟨.same, [10]⟩, ?_⟩
  refine ⟨by decide +kernel, by decide +kernel, by decide +kernel, ?_, by decide +kernel,
    by decide +kernel, by decide +kernel⟩
  exact ⟨⟨10, rfl, holds_ofNat (by norm_num)⟩, ⟨1, rfl, holds_one⟩,
    ⟨4, rfl, holds_ofNat (by norm_num)⟩⟩

/-- An axis of ten positions on which the last of four windows ends in the padding, rounding up. -/
def paddedEndNode : Node :=
  Node.create 1 .maxPool ⟨"fp32", .ofExtents [1, 1, 10]⟩
    { Attributes.required [4] "Same_Lower" with
      strides := some [3]
      ceilMode := some true }

theorem sameLower_exchanges_two_and_one :
    IsLowerCasing String.toLower ∧
      (paddedEndNode.explain ⟨.opset16, false⟩ ⟨none, none⟩).result =
        .ok (paddedEndNode.explained ⟨.sameLower, [10]⟩) ∧
      paddedEndNode.attributes.padType.toLower = "same_lower" ∧
      paddedEndNode.SpatialAtMost (2 ^ 50) ∧
      ∃ other, (paddedEndNode.withSame.explain ⟨.opset16, false⟩ ⟨none, none⟩).result = .ok other ∧
        (paddedEndNode.explained ⟨.sameLower, [10]⟩).padAmounts =
          other.padAmounts.map Padding.exchanged := by
  have accepted : (paddedEndNode.explain ⟨.opset16, false⟩ ⟨none, none⟩).result =
      .ok (paddedEndNode.explained ⟨.sameLower, [10]⟩) := by decide +kernel
  have mode : paddedEndNode.attributes.padType.toLower = "same_lower" := by decide +kernel
  have axisHeld : paddedEndNode.HasAxis 0 10 4 3 :=
    ⟨⟨10, rfl, holds_ofNat (by norm_num)⟩, ⟨4, rfl, holds_ofNat (by norm_num)⟩,
      ⟨3, rfl, holds_ofNat (by norm_num)⟩⟩
  have small : paddedEndNode.SpatialAtMost (2 ^ 50) := by
    intro axis D K S has
    obtain rfl : axis = 0 := by
      have inside : axis < 1 := has.inside
      omega
    obtain ⟨rfl, rfl, rfl⟩ := has.unique axisHeld
    norm_num
  obtain ⟨-, other, otherAccepted, exchanged, -⟩ := sameLower_exchanges_same String.toLower
    isLowerCasing_toLower paddedEndNode _ _ _ accepted mode small
  exact ⟨isLowerCasing_toLower, accepted, mode, small, other, otherAccepted, exchanged⟩

end Pooling
