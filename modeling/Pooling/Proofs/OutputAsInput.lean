/-
This file settles when the output of an accepted node can be the input of another. Element type, rank, batch
and channel are handed on as they came in, so all depends on whether an axis comes out with a negative
extent, which is let through. That happens only if the kernel is too wide for the padded axis: rounding
down, by more than one stride, and rounding up, by two strides or more. Dropping a window takes no count
below zero, for only a window that starts behind the first is dropped. Under the total of a `same` mode the
kernel is too wide by one stride at most.
-/

import Pooling.Catalog
import Pooling.Proofs.AxisByAxis
import Pooling.Proofs.LeastPadding
import Pooling.Proofs.WindowStarts

namespace Pooling

open Binary64

/-! ### Negative counts -/

section Counts

variable {D K S b a : ℤ}

/-- Rounding down, the count is not negative exactly if the padded axis is short of the kernel by one stride
at most. -/
theorem exactWindows_down_nonneg_iff (stridePos : 0 < S) :
    0 ≤ exactWindows D K S b a false ↔ -S ≤ D + b + a - K := by
  rw [le_exactWindows_iff stridePos]
  constructor <;> intro bound <;> linarith

/-- Rounding up, it is not negative exactly if the padded axis is short of the kernel by less than two
strides. -/
theorem exactWindows_up_nonneg_iff (stridePos : 0 < S) (edgeNonneg : 0 ≤ D + b) :
    0 ≤ exactWindows D K S b a true ↔ -2 * S < D + b + a - K := by
  have counted : 0 ≤ exactCeilWindows D K S b a ↔ -2 * S < D + b + a - K := by
    have more := lt_exactCeilWindows_iff (D := D) (K := K) (b := b) (a := a) stridePos (-1)
    rw [← Int.sub_one_lt_iff, zero_sub, more]
    constructor <;> intro bound <;> linarith
  rw [← counted]
  simp only [exactWindows, if_true]
  generalize exactCeilWindows D K S b a = filled
  split
  · rename_i dropped
    -- what is dropped starts behind an axis that has an end, so it is not the only window
    have another : 0 ≤ filled - 1 := by
      by_contra negative
      have start := mul_neg_of_neg_of_pos (not_le.mp negative) stridePos
      linarith [dropped.1]
    exact iff_of_true another (by linarith)
  · exact Iff.rfl

/-- How much of the padded axis has to be left beside the kernel so that the count is not negative. It may
be left by being short of the kernel. -/
def SufficientRoom (stride room : ℤ) (ceilMode : Bool) : Prop :=
  if ceilMode then -2 * stride < room else -stride ≤ room

theorem exactWindows_nonneg_iff (valid : ValidAxis D K S) (beforeNonneg : 0 ≤ b) (ceilMode : Bool) :
    0 ≤ exactWindows D K S b a ceilMode ↔ SufficientRoom S (D + b + a - K) ceilMode := by
  have stridePos : 0 < S := zero_lt_one.trans_le valid.stride_pos
  cases ceilMode with
  | false => exact exactWindows_down_nonneg_iff stridePos
  | true => exact exactWindows_up_nonneg_iff stridePos (add_nonneg valid.extent_nonneg beforeNonneg)

/-- In a `same` mode the two amounts add up to the total. -/
theorem exactPadding_shared {padType : PadType} {listed : ℤ × ℤ}
    (computed : padType = .same ∨ padType = .sameLower) :
    (exactPadding padType D K S listed).1 + (exactPadding padType D K S listed).2 =
      exactSameTotal D K S := by
  rcases computed with rfl | rfl
  · exact add_sub_cancel _ _
  · exact sub_add_cancel _ _

/-- Under the total of a `same` mode there is room enough for either way of rounding. -/
theorem sufficientRoom_same (valid : ValidAxis D K S) (shared : b + a = exactSameTotal D K S)
    (ceilMode : Bool) : SufficientRoom S (D + b + a - K) ceilMode := by
  obtain ⟨extentNonneg, -, stridePos⟩ := valid
  obtain ⟨stridesNonneg, -⟩ := ceil_div_bounds extentNonneg stridePos
  have span := exactSpan_of_total shared
  have started : -S ≤ D + b + a - K := by
    have first := mul_nonneg stridesNonneg (zero_le_one.trans stridePos)
    have start := le_max_left ((⌈(D / S : ℚ)⌉ - 1) * S) (D - K)
    rw [← span, exactSpan, sub_mul, one_mul] at start
    linarith
  cases ceilMode with
  | false => exact started
  | true => exact lt_of_lt_of_le (by linarith) started

end Counts

/-! ### Checking an input type -/

/-- An input type passes exactly if its parts may stand where they stand, and then its extents are given.
-/
theorem validateInput_eq_ok_iff {operator : Operator} {input : TensorType} {extents : List Binary64} :
    validateInput operator input = .ok extents ↔
      (∀ requirement ∈ input.requirements, requirement.holds) ∧
        input.shape.drop 2 = extents.map Dim.extent := by
  have found := (reports_input input).eq_none_iff
  constructor
  · intro passed
    unfold validateInput at passed
    cases fault : input.fault? with
    | some found =>
      rw [fault] at passed
      cases passed
    | none =>
      rw [fault] at passed
      obtain rfl : input.shape.spatialExtents = extents := Except.ok.inj passed
      exact ⟨found.mp fault, TensorType.drop_eq_spatialExtents (found.mp fault)⟩
  · rintro ⟨all, dims⟩
    rw [TensorType.drop_eq_spatialExtents all] at dims
    have same : input.shape.spatialExtents = extents :=
      List.map_injective_iff.mpr (fun _ _ equal => Dim.extent.inj equal) dims
    rw [validateInput, found.mpr all, same]
    rfl

/-! ### Outputs of accepted nodes -/

/-- No reported amount of padding is above the bound. -/
def Explanation.AmountsAtMost (explanation : Explanation) (bound : ℤ) : Prop :=
  ∀ axis b a, explanation.HasAmounts axis b a → b ≤ bound ∧ a ≤ bound

section Output

variable {node : Node} {target : String} {valid : Validated}

/-- All parts of the output are allowed exactly if no spatial extent is negative. -/
theorem outputType_allowed_iff (validated : node.resolve.validate node.input target = .ok valid) :
    (∀ requirement ∈ (node.explained valid).outputType.requirements, requirement.holds) ↔
      ∀ axis < node.input.rank - 2, ∃ out : ℤ, (node.explained valid).HasOutput axis out ∧
        0 ≤ out := by
  obtain ⟨meets, -⟩ := ResolvedPool.validate_eq_ok_iff_meets.mp validated
  have rank := Node.rank_outputType validated
  have leading := (dims_allowed_iff.mp meets.dims).1
  rw [TensorType.forall_requirements_iff, rank, dims_allowed_iff, Node.take_outputType validated]
  constructor
  · rintro ⟨-, -, -, spatial⟩ axis inside
    have behind : axis + 2 < (node.explained valid).outputType.shape.length := by
      unfold TensorType.rank at rank inside
      omega
    have found := List.getElem?_eq_getElem behind
    have member : (node.explained valid).outputType.shape[axis + 2] ∈
        (node.explained valid).outputType.shape.drop 2 :=
      List.mem_iff_getElem?.mpr ⟨axis, by rw [List.getElem?_drop, Nat.add_comm, found]⟩
    obtain ⟨size, out, isExtent, held, nonnegative⟩ :=
      (Dim.allowedAt_spatial_iff le_rfl).mp (spatial _ member)
    exact ⟨out, ⟨size, isExtent ▸ found, held⟩, nonnegative⟩
  · intro outputs
    refine ⟨meets.elementType, meets.rank, leading, fun dim member => ?_⟩
    obtain ⟨axis, found⟩ := List.mem_iff_getElem?.mp member
    rw [List.getElem?_drop, Nat.add_comm] at found
    have behind := (List.getElem?_eq_some_iff.mp found).1
    obtain ⟨out, ⟨size, foundSize, held⟩, nonnegative⟩ := outputs axis (by
      unfold TensorType.rank at rank ⊢
      omega)
    have isExtent : dim = .extent size := Option.some_inj.mp (found.symm.trans foundSize)
    exact (Dim.allowedAt_spatial_iff le_rfl).mpr ⟨size, out, isExtent, held, nonnegative⟩

end Output

/-- What an explanation reports of a spatial axis of its node, all of it in whole numbers. -/
structure ReportedAxis (node : Node) (explanation : Explanation) (axis : ℕ) (D K S b a : ℤ) : Prop where
  valid : ValidAxis D K S
  before_nonneg : 0 ≤ b
  shared : explanation.padType = .same ∨ explanation.padType = .sameLower →
    b + a = exactSameTotal D K S
  hasAxis : node.HasAxis axis D K S
  hasAmounts : explanation.HasAmounts axis b a
  hasOutput : explanation.HasOutput axis
    (exactWindows D K S b a (node.attributes.ceilMode.getD false))

section Reported

variable {node : Node} {target : String} {valid : Validated}
  (validated : node.resolve.validate node.input target = .ok valid)
  (small : node.SpatialAtMost (2 ^ 50))
  (amountsSmall : (node.explained valid).AmountsAtMost (2 ^ 50)) {index : ℕ}

include validated small amountsSmall

/-- Every spatial axis is reported while its numbers are far from the end of the whole numbers that the
format holds. -/
theorem exists_reportedAxis (inside : index < node.input.rank - 2) :
    ∃ D K S b a, ReportedAxis node (node.explained valid) index D K S b a := by
  obtain ⟨axis, D, K, S, first, second, holds⟩ := exists_acceptedAxis validated inside
  obtain ⟨extentSmall, kernelSmall, strideSmall⟩ := small index D K S holds.hasAxis
  obtain ⟨amounts, output⟩ := holds.reported (by linarith)
  obtain ⟨beforeNonneg, afterNonneg⟩ := exactPadding_nonneg valid.padType D K S (first, second)
    holds.before_nonneg holds.after_nonneg
  have shared : valid.padType = .same ∨ valid.padType = .sameLower →
      (exactPadding valid.padType D K S (first, second)).1 +
        (exactPadding valid.padType D K S (first, second)).2 = exactSameTotal D K S :=
    exactPadding_shared
  generalize exactPadding valid.padType D K S (first, second) = padding at *
  obtain ⟨b, a⟩ := padding
  obtain ⟨beforeSmall, afterSmall⟩ := amountsSmall index b a amounts
  have bounded : D + K + S + b + a ≤ 2 ^ 53 := by linarith
  have countSmall := abs_exactWindows_le holds.holds.valid beforeNonneg afterNonneg bounded
  exact ⟨D, K, S, b, a, holds.holds.valid, beforeNonneg, shared, holds.hasAxis, amounts, _,
    output bounded, holds_ofInt (countSmall _)⟩

/-- What an axis has, and the amounts for it, are those that are reported. -/
theorem reportedAxis_of_has {D K S b a : ℤ} (has : node.HasAxis index D K S)
    (amounts : (node.explained valid).HasAmounts index b a) :
    ReportedAxis node (node.explained valid) index D K S b a := by
  obtain ⟨D', K', S', b', a', reported⟩ :=
    exists_reportedAxis validated small amountsSmall has.inside
  obtain ⟨rfl, rfl, rfl⟩ := reported.hasAxis.unique has
  obtain ⟨rfl, rfl⟩ := reported.hasAmounts.unique amounts
  exact reported

/-- No extent of the output is negative exactly if every padded axis has room enough. -/
theorem outputs_nonneg_iff :
    (∀ axis < node.input.rank - 2, ∃ out : ℤ, (node.explained valid).HasOutput axis out ∧ 0 ≤ out) ↔
      ∀ axis D K S b a, node.HasAxis axis D K S → (node.explained valid).HasAmounts axis b a →
        SufficientRoom S (D + b + a - K) (node.attributes.ceilMode.getD false) := by
  constructor
  · intro outputs index D K S b a has amounts
    have reported := reportedAxis_of_has validated small amountsSmall has amounts
    obtain ⟨out, outputAt, nonnegative⟩ := outputs index has.inside
    obtain rfl := outputAt.unique reported.hasOutput
    exact (exactWindows_nonneg_iff reported.valid reported.before_nonneg _).mp nonnegative
  · intro each index inside
    obtain ⟨D, K, S, b, a, reported⟩ := exists_reportedAxis validated small amountsSmall inside
    exact ⟨_, reported.hasOutput,
      (exactWindows_nonneg_iff reported.valid reported.before_nonneg _).mpr
        (each index D K S b a reported.hasAxis reported.hasAmounts)⟩

end Reported

/-- The output of an accepted node can be the input of any operator exactly if no axis of it has a negative
extent. That is so exactly if every padded axis has sufficient room beside the kernel, which may be wider
than the axis by one stride or, rounding up, by nearly two; under the `same` modes every axis has. The
extents that the check gives are those of the output. -/
theorem output_passes_as_input_iff (node : Node) (configuration : Configuration) (options : Options)
    (explanation : Explanation)
    (accepted : (node.explain configuration options).result = .ok explanation)
    (small : node.SpatialAtMost (2 ^ 50)) (amountsSmall : explanation.AmountsAtMost (2 ^ 50))
    (operator : Operator) :
    ((∃ extents, validateInput operator explanation.outputType = .ok extents) ↔
      ∀ axis < node.input.rank - 2, ∃ out : ℤ, explanation.HasOutput axis out ∧ 0 ≤ out) ∧
    ((∀ axis < node.input.rank - 2, ∃ out : ℤ, explanation.HasOutput axis out ∧ 0 ≤ out) ↔
      ∀ axis D K S b a, node.HasAxis axis D K S → explanation.HasAmounts axis b a →
        SufficientRoom S (D + b + a - K) (node.attributes.ceilMode.getD false)) ∧
    (∀ extents, validateInput operator explanation.outputType = .ok extents →
      explanation.outputType.shape.drop 2 = extents.map Dim.extent) ∧
    (∀ axis < node.input.rank - 2, ∃ D K S b a out : ℤ, node.HasAxis axis D K S ∧
      explanation.HasAmounts axis b a ∧ explanation.HasOutput axis out) ∧
    (explanation.padType = .same ∨ explanation.padType = .sameLower →
      ∃ extents, validateInput operator explanation.outputType = .ok extents) := by
  obtain ⟨valid, validated, rfl⟩ :=
    Node.explanation_eq_ok_iff.mp (Node.explain_eq_ok_iff.mp accepted)
  have passes : (∃ extents, validateInput operator (node.explained valid).outputType = .ok extents) ↔
      ∀ axis < node.input.rank - 2, ∃ out : ℤ, (node.explained valid).HasOutput axis out ∧
        0 ≤ out := by
    rw [← outputType_allowed_iff validated]
    constructor
    · rintro ⟨extents, passed⟩
      exact (validateInput_eq_ok_iff.mp passed).1
    · intro all
      exact ⟨_, validateInput_eq_ok_iff.mpr ⟨all, TensorType.drop_eq_spatialExtents all⟩⟩
  have room := outputs_nonneg_iff validated small amountsSmall
  refine ⟨passes, room, fun extents passed => (validateInput_eq_ok_iff.mp passed).2, ?_, ?_⟩
  · intro index inside
    obtain ⟨D, K, S, b, a, reported⟩ := exists_reportedAxis validated small amountsSmall inside
    exact ⟨D, K, S, b, a, _, reported.hasAxis, reported.hasAmounts, reported.hasOutput⟩
  · intro computed
    refine passes.mpr (room.mpr fun index D K S b a has amounts => ?_)
    have reported := reportedAxis_of_has validated small amountsSmall has amounts
    exact sufficientRoom_same reported.valid (reported.shared computed) _

/-- A kernel of four on an axis of one position, with a stride of two. Rounding up leaves an empty axis,
and rounding down a negative extent. -/
def overhangNode (ceilMode : Bool) : Node :=
  Node.create 1 .avgPool ⟨"fp16", [.symbol "N", .extent 3, .extent 1]⟩
    { Attributes.required [4] "valid" with
      strides := some [2]
      ceilMode := some ceilMode }

theorem empty_axis_passes_and_negative_does_not :
    (∀ ceilMode, ((overhangNode ceilMode).explain ⟨.opset18, false⟩ ⟨none, none⟩).result =
        .ok ((overhangNode ceilMode).explained ⟨.valid, [1]⟩) ∧
      (overhangNode ceilMode).SpatialAtMost (2 ^ 50) ∧
      ((overhangNode ceilMode).explained ⟨.valid, [1]⟩).AmountsAtMost (2 ^ 50)) ∧
    (∃ extents, validateInput .l2Pool ((overhangNode true).explained ⟨.valid, [1]⟩).outputType =
      .ok extents) ∧
    ¬ ∃ extents, validateInput .l2Pool ((overhangNode false).explained ⟨.valid, [1]⟩).outputType =
      .ok extents := by
  have accepted (ceilMode : Bool) :
      ((overhangNode ceilMode).explain ⟨.opset18, false⟩ ⟨none, none⟩).result =
        .ok ((overhangNode ceilMode).explained ⟨.valid, [1]⟩) := by
    cases ceilMode <;> decide +kernel
  have axisHeld (ceilMode : Bool) : (overhangNode ceilMode).HasAxis 0 1 4 2 :=
    ⟨⟨1, rfl, holds_one⟩, ⟨4, rfl, holds_ofNat (n := 4) (by norm_num)⟩, ⟨2, rfl, holds_two⟩⟩
  have amountsHeld (ceilMode : Bool) :
      ((overhangNode ceilMode).explained ⟨.valid, [1]⟩).HasAmounts 0 0 0 :=
    ⟨0, 0, rfl, holds_zero, holds_zero⟩
  have single {ceilMode : Bool} {index : ℕ} {D K S : ℤ}
      (has : (overhangNode ceilMode).HasAxis index D K S) : index = 0 := by
    have inside : index < 1 := has.inside
    omega
  have small (ceilMode : Bool) : (overhangNode ceilMode).SpatialAtMost (2 ^ 50) := by
    intro index D K S has
    obtain rfl := single has
    obtain ⟨rfl, rfl, rfl⟩ := has.unique (axisHeld ceilMode)
    norm_num
  have amountsSmall (ceilMode : Bool) :
      ((overhangNode ceilMode).explained ⟨.valid, [1]⟩).AmountsAtMost (2 ^ 50) := by
    rintro index b a ⟨before, after, found, beforeHeld, afterHeld⟩
    have member : Padding.mk (some before) (some after) ∈ [Padding.mk (some 0) (some 0)] :=
      List.mem_of_getElem? found
    obtain ⟨rfl, rfl⟩ : before = 0 ∧ after = 0 := by simpa using member
    obtain rfl := beforeHeld.unique holds_zero
    obtain rfl := afterHeld.unique holds_zero
    norm_num
  obtain ⟨upPasses, upRoom, -⟩ := output_passes_as_input_iff (overhangNode true) _ _ _ (accepted true)
    (small true) (amountsSmall true) .l2Pool
  obtain ⟨downPasses, downRoom, -⟩ := output_passes_as_input_iff (overhangNode false) _ _ _
    (accepted false) (small false) (amountsSmall false) .l2Pool
  refine ⟨fun ceilMode => ⟨accepted ceilMode, small ceilMode, amountsSmall ceilMode⟩, ?_, ?_⟩
  · refine upPasses.mpr (upRoom.mpr fun index D K S b a has amounts => ?_)
    obtain rfl := single has
    obtain ⟨rfl, rfl, rfl⟩ := has.unique (axisHeld true)
    obtain ⟨rfl, rfl⟩ := amounts.unique (amountsHeld true)
    show (-2 * 2 : ℤ) < 1 + 0 + 0 - 4
    norm_num
  · intro passed
    have room : (-2 : ℤ) ≤ 1 + 0 + 0 - 4 := downRoom.mp (downPasses.mp passed) 0 1 4 2 0 0
      (axisHeld false) (amountsHeld false)
    norm_num at room

end Pooling
