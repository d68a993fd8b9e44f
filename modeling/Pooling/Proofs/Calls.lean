/-
This file says what the two calls on a node come to. Both work with its attributes after every unset
one was filled in. An explanation is what a valid node computes, or the error of the validation. An
inference ends in one of three ways: it takes the answer from the cache, it computes and stores, or it
fails like an explanation and leaves the node alone.
-/

import Mathlib.Tactic
import Pooling.Inference

namespace Pooling

/-! ### Resolved attributes -/

namespace Node

theorem operator_resolve (node : Node) : node.resolve.operator = node.operator := by
  show (node.operator.variant node.attributes).operator = node.operator
  cases node.operator <;> rfl

/-- A node rounds up exactly if its attributes say so. -/
theorem ceilMode_resolve_iff (node : Node) :
    node.resolve.parameters.ceilMode = true ↔ node.attributes.ceilMode = some true := by
  show node.attributes.ceilMode.getD false = true ↔ _
  cases node.attributes.ceilMode <;> simp

theorem strides_of_unset {node : Node} (unset : node.attributes.strides = none) :
    node.resolve.parameters.strides = List.replicate (node.input.rank - 2) 1 := by
  show node.attributes.strides.getD _ = _
  rw [unset]
  rfl

theorem pad_of_unset {node : Node} (unset : node.attributes.pad = none) :
    node.resolve.parameters.pad = List.replicate (2 * (node.input.rank - 2)) 0 := by
  show node.attributes.pad.getD _ = _
  rw [unset]
  rfl

end Node

/-! ### Explanations -/

namespace Node

/-- The explanation of a node that was found valid. -/
def explained (node : Node) (valid : Validated) : Explanation :=
  let parameters := node.resolve.parameters
  { resolved := node.resolve
    padType := valid.padType
    padAmounts := padAmounts valid.padType valid.extents parameters.kernelSizes parameters.strides
      parameters.pad
    outputType := ⟨node.input.elementType, node.input.shape.withSpatial
      (outputExtents valid.padType valid.extents parameters.kernelSizes parameters.strides
        parameters.pad parameters.ceilMode)⟩ }

theorem explanation_eq (node : Node) (target : String) :
    node.explanation target = (node.resolve.validate node.input target).map node.explained := by
  unfold explanation
  dsimp only
  cases node.resolve.validate node.input target <;> rfl

theorem explanation_eq_ok_iff {node : Node} {target : String} {explanation : Explanation} :
    node.explanation target = .ok explanation ↔
      ∃ valid, node.resolve.validate node.input target = .ok valid ∧
        node.explained valid = explanation := by
  rw [explanation_eq]
  cases node.resolve.validate node.input target <;> simp [Except.map]

theorem explain_result (node : Node) (configuration : Configuration) (options : Options) :
    (node.explain configuration options).result =
      (node.explanation (options.targetUnder configuration)).mapError Failure.parameter := by
  unfold explain
  dsimp only
  cases node.explanation (options.targetUnder configuration) <;> rfl

theorem explain_eq_ok_iff {node : Node} {configuration : Configuration} {options : Options}
    {explanation : Explanation} :
    (node.explain configuration options).result = .ok explanation ↔
      node.explanation (options.targetUnder configuration) = .ok explanation := by
  rw [explain_result]
  cases node.explanation (options.targetUnder configuration) <;> simp [Except.mapError]

/-- Explaining fails exactly if the operation is refused, and with the same error. -/
theorem explain_eq_error_iff {node : Node} {configuration : Configuration} {options : Options}
    {failure : Failure} :
    (node.explain configuration options).result = .error failure ↔
      ∃ error, failure = .parameter error ∧
        node.resolve.validate node.input (options.targetUnder configuration) = .error error := by
  rw [explain_result, explanation_eq]
  cases node.resolve.validate node.input (options.targetUnder configuration) with
  | error error => simp [Except.map, Except.mapError, eq_comm]
  | ok valid => simp [Except.map, Except.mapError]

/-- The error of a node whose operation is refused. -/
theorem explain_eq_error {node : Node} {configuration : Configuration} {options : Options}
    {error : InvalidParameter}
    (refused : node.resolve.validate node.input (options.targetUnder configuration) = .error error) :
    (node.explain configuration options).result = .error (.parameter error) := by
  rw [explain_result, explanation_eq, refused]
  rfl

end Node

/-! ### Inferences -/

namespace Node

variable {node : Node} {configuration : Configuration} {options : Options}

/-- The cache answers exactly if it holds a type and was filled for the target. -/
theorem cached?_eq_some_iff {target : String} {outputType : TensorType} :
    node.cached? target = some outputType ↔
      node.outputTarget = some target ∧ node.outputType = some outputType := by
  unfold cached?
  split
  · rename_i checked
    exact (and_iff_right checked).symm
  · rename_i other
    exact iff_of_false (Option.some_ne_none _ ·.symm) fun both => other both.1

theorem cached?_eq_none_iff {target : String} :
    node.cached? target = none ↔ node.outputType = none ∨ node.outputTarget ≠ some target := by
  unfold cached?
  split
  · rename_i checked
    exact (or_iff_left (not_not.mpr checked)).symm
  · rename_i other
    exact iff_of_true rfl (Or.inr other)

/-- An answer from the cache, with its line. -/
theorem infer_eq_of_cached {outputType : TensorType}
    (found : node.cached? (options.targetUnder configuration) = some outputType) :
    node.infer configuration options =
      (⟨.ok outputType, options.lines configuration
        (.ofCached node (options.targetUnder configuration) outputType)⟩, node) := by
  unfold infer
  dsimp only
  rw [found]

/-- Without one, the type that explaining gives, with the lines that explaining writes. -/
theorem infer_eq_of_ok (missing : node.cached? (options.targetUnder configuration) = none)
    {explanation : Explanation}
    (succeeded : (node.explain configuration options).result = .ok explanation) :
    node.infer configuration options =
      (⟨.ok explanation.outputType, (node.explain configuration options).log⟩,
        node.store (options.targetUnder configuration) explanation.outputType) := by
  unfold infer
  dsimp only
  rw [missing]
  dsimp only [Outcome.map]
  rw [succeeded]
  rfl

theorem infer_eq_of_error (missing : node.cached? (options.targetUnder configuration) = none)
    {failure : Failure} (failed : (node.explain configuration options).result = .error failure) :
    node.infer configuration options =
      (⟨.error failure, (node.explain configuration options).log⟩, node) := by
  unfold infer
  dsimp only
  rw [missing]
  dsimp only [Outcome.map]
  rw [failed]
  rfl

theorem infer_of_cached {outputType : TensorType}
    (found : node.cached? (options.targetUnder configuration) = some outputType) :
    (node.infer configuration options).1.result = .ok outputType ∧
      (node.infer configuration options).2 = node := by
  rw [infer_eq_of_cached found]
  exact ⟨rfl, rfl⟩

theorem infer_of_explanation {explanation : Explanation}
    (missing : node.cached? (options.targetUnder configuration) = none)
    (computed : node.explanation (options.targetUnder configuration) = .ok explanation) :
    (node.infer configuration options).1.result = .ok explanation.outputType ∧
      (node.infer configuration options).2 =
        node.store (options.targetUnder configuration) explanation.outputType := by
  rw [infer_eq_of_ok missing (explain_eq_ok_iff.mpr computed)]
  exact ⟨rfl, rfl⟩

theorem infer_of_error {error : InvalidParameter}
    (missing : node.cached? (options.targetUnder configuration) = none)
    (refused : node.explanation (options.targetUnder configuration) = .error error) :
    (node.infer configuration options).1.result = .error (.parameter error) ∧
      (node.infer configuration options).2 = node := by
  have failed : (node.explain configuration options).result = .error (.parameter error) := by
    rw [explain_result, refused]
    rfl
  rw [infer_eq_of_error missing failed]
  exact ⟨rfl, rfl⟩

end Node

end Pooling
