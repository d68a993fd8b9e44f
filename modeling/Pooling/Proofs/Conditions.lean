/-
This file brings the conditions of acceptance into the form in which they are used: without the order in
which they are checked, under names, and each list of numbers at once for all three lists. An operation
is accepted exactly if it meets them for the padding mode that its text names.
-/

import Pooling.Proofs.Acceptance
import Pooling.Proofs.Calls

namespace Pooling

open Binary64

/-! ### The conditions part by part -/

/-- The list has the entries that it must have for so many spatial axes. -/
structure AxisList.Allowed (list : AxisList) (parameters : Parameters) (spatialRank : ℕ) : Prop where
  length : (list.values parameters).length = list.countFor spatialRank
  whole : ∀ entry ∈ list.values parameters, ∃ n : ℤ, list.leastWhole ≤ n ∧ entry.Holds n

/-- The pad amounts of the axis are alike. -/
def Parameters.Symmetric (parameters : Parameters) (axis : ℕ) : Prop :=
  ∃ n : ℤ, HoldsAt parameters.pad (2 * axis) n ∧ HoldsAt parameters.pad (2 * axis + 1) n

/-- The operation fits the input under the padding mode: what is left to look at is whether pad amounts
are alike where they have to be, and the target. -/
structure ResolvedPool.Fits (pool : ResolvedPool) (input : TensorType) (padType : PadType) : Prop where
  elementType : input.elementType = "fp16" ∨ input.elementType = "fp32"
  rank : 3 ≤ input.rank ∧ input.rank ≤ 5
  dims : ∀ index (dim : Dim), input.shape[index]? = some dim → dim.AllowedAt index
  lists : ∀ list : AxisList, list.Allowed pool.parameters (input.rank - 2)
  flat : pool.operator = .l2Pool → input.rank - 2 ≤ 2
  mode : PadType.ofText? pool.parameters.padType = some padType
  ceilFlat : pool.parameters.ceilMode = true → input.rank - 2 ≤ 2
  ceilSame : pool.parameters.ceilMode = true → padType ≠ .same

/-- The operation can be compiled on the input for the target, under the padding mode. -/
structure ResolvedPool.Meets (pool : ResolvedPool) (input : TensorType) (target : String)
    (padType : PadType) : Prop extends pool.Fits input padType where
  symmetric : pool.parameters.ceilMode = true → pool.parameters.padGiven = true →
    ∀ axis < input.rank - 2, pool.parameters.Symmetric axis
  target : target = "opset15" → padType ≠ .sameLower

theorem TensorType.forall_requirements_iff (input : TensorType) :
    (∀ requirement ∈ input.requirements, requirement.holds) ↔
      (input.elementType = "fp16" ∨ input.elementType = "fp32") ∧
        (3 ≤ input.rank ∧ input.rank ≤ 5) ∧
        ∀ index (dim : Dim), input.shape[index]? = some dim → dim.AllowedAt index := by
  simp only [requirements, List.forall_mem_append, List.forall_mem_cons, List.not_mem_nil,
    false_imp_iff, implies_true, and_true, List.forall_mem_flatMap, Prod.forall,
    List.mk_mem_zipIdx_iff_getElem?]
  rw [and_assoc]
  exact and_congr_right fun _ => and_congr_right fun _ => forall_comm

theorem AxisList.forall_requirements_iff (list : AxisList) (parameters : Parameters)
    (spatialRank : ℕ) :
    (∀ requirement ∈ list.requirements parameters spatialRank, requirement.holds) ↔
      list.Allowed parameters spatialRank := by
  simp only [requirements, requirementsOn, List.forall_mem_cons, List.not_mem_nil, false_imp_iff,
    implies_true, and_true]
  exact ⟨fun both => ⟨both.1, both.2⟩, fun allowed => ⟨allowed.length, allowed.whole⟩⟩

theorem Parameters.forall_listRequirements_iff (parameters : Parameters) (spatialRank : ℕ) :
    (∀ requirement ∈ parameters.listRequirements spatialRank, requirement.holds) ↔
      ∀ list : AxisList, list.Allowed parameters spatialRank := by
  constructor
  · intro all list
    refine (list.forall_requirements_iff _ _).mp fun requirement member => ?_
    exact all requirement (mem_listRequirements member)
  · intro lists requirement member
    rw [listRequirements_eq, List.mem_flatMap] at member
    obtain ⟨list, -, listed⟩ := member
    exact (list.forall_requirements_iff _ _).mpr (lists list) requirement listed

theorem Parameters.forall_roundingRequirements_iff (parameters : Parameters) (spatialRank : ℕ)
    (padType : PadType) :
    (∀ requirement ∈ parameters.roundingRequirements spatialRank padType.name,
        requirement.holds) ↔
      (parameters.ceilMode = true → spatialRank ≤ 2) ∧
        (parameters.ceilMode = true → padType ≠ .same) ∧
        (parameters.ceilMode = true → parameters.padGiven = true →
          ∀ axis < spatialRank, parameters.Symmetric axis) := by
  have same : padType.name = PadType.same.name ↔ padType = .same :=
    ⟨PadType.name_injective, congrArg PadType.name⟩
  change padType.name = "same" ↔ padType = .same at same
  simp only [roundingRequirements, symmetry, List.forall_mem_append, List.forall_mem_cons,
    List.not_mem_nil, false_imp_iff, implies_true, and_true, List.forall_mem_flatMap,
    List.mem_range, same.not, and_assoc]
  refine and_congr_right fun _ => and_congr_right fun _ => ?_
  exact ⟨fun each up given axis inside => each axis inside up given,
    fun all axis inside up given => all up given axis inside⟩

/-! ### Acceptance -/

theorem ResolvedPool.forall_requirements_iff {pool : ResolvedPool} {input : TensorType}
    {target : String} {padType : PadType}
    (mode : PadType.ofText? pool.parameters.padType = some padType) :
    (∀ requirement ∈ pool.requirements String.toLower input target, requirement.holds) ↔
      pool.Meets input target padType := by
  have named : pool.parameters.padType.toLower = padType.name :=
    (PadType.ofText?_eq_some_iff isLowerCasing_toLower).mp mode
  have known := (PadType.mem_names_iff padType.name).mpr ⟨padType, rfl⟩
  have sameLower : padType.name = PadType.sameLower.name ↔ padType = .sameLower :=
    ⟨PadType.name_injective, congrArg PadType.name⟩
  change padType.name = "same_lower" ↔ padType = .sameLower at sameLower
  have isL2 : pool.HasOperator .l2Pool ↔ pool.operator = .l2Pool :=
    (pool.hasOperator_iff _).trans eq_comm
  simp only [requirements, List.forall_mem_append, List.forall_mem_cons, List.not_mem_nil,
    false_imp_iff, implies_true, and_true, named, known, sameLower.not, isL2,
    TensorType.forall_requirements_iff, Parameters.forall_listRequirements_iff,
    Parameters.forall_roundingRequirements_iff]
  constructor
  · rintro ⟨⟨⟨⟨⟨elementType, rank, dims⟩, lists⟩, flat⟩, ceilFlat, ceilSame, symmetric⟩, support⟩
    exact ⟨⟨elementType, rank, dims, lists, flat, mode, ceilFlat, ceilSame⟩, symmetric, support⟩
  · rintro ⟨⟨elementType, rank, dims, lists, flat, -, ceilFlat, ceilSame⟩, symmetric, support⟩
    exact ⟨⟨⟨⟨⟨elementType, rank, dims⟩, lists⟩, flat⟩, ceilFlat, ceilSame, symmetric⟩, support⟩

/-- An operation is accepted exactly if it meets the conditions, and is then computed under the mode of
which it meets them. -/
theorem ResolvedPool.validate_eq_ok_iff_meets {pool : ResolvedPool} {input : TensorType}
    {target : String} {valid : Validated} :
    pool.validate input target = .ok valid ↔
      pool.Meets input target valid.padType ∧ valid.extents = input.shape.spatialExtents := by
  rw [validate_eq_ok_iff isLowerCasing_toLower pool input target valid]
  constructor
  · rintro ⟨all, named, dims⟩
    have mode := (PadType.ofText?_eq_some_iff isLowerCasing_toLower).mpr named
    refine ⟨(forall_requirements_iff mode).mp all, ?_⟩
    rw [TensorType.drop_eq_spatialExtents (input_allowed all)] at dims
    exact (List.map_injective_iff.mpr (fun _ _ equal => Dim.extent.inj equal) dims).symm
  · rintro ⟨meets, extents⟩
    have all := (forall_requirements_iff meets.mode).mpr meets
    refine ⟨all, (PadType.ofText?_eq_some_iff isLowerCasing_toLower).mp meets.mode, ?_⟩
    rw [extents]
    exact TensorType.drop_eq_spatialExtents (input_allowed all)

theorem ResolvedPool.Meets.validate {pool : ResolvedPool} {input : TensorType} {target : String}
    {padType : PadType} (meets : pool.Meets input target padType) :
    pool.validate input target = .ok ⟨padType, input.shape.spatialExtents⟩ :=
  validate_eq_ok_iff_meets.mpr ⟨meets, rfl⟩

/-- Rounding up, an operation that fits its input is refused for the first axis whose listed amounts are
not alike. -/
theorem ResolvedPool.validate_eq_asymmetric {pool : ResolvedPool} {input : TensorType}
    {padType : PadType} (fits : pool.Fits input padType) (target : String)
    (up : pool.parameters.ceilMode = true) (given : pool.parameters.padGiven = true) {axis : ℕ}
    (inside : axis < input.rank - 2) (earlier : ∀ before < axis, pool.parameters.Symmetric before)
    (uneven : ¬ pool.parameters.Symmetric axis) :
    pool.validate input target = .error ⟨pool.operator, .asymmetric pool.parameters.pad axis
      (operand pool.parameters.pad[2 * axis]?) (operand pool.parameters.pad[2 * axis + 1]?)⟩ := by
  have named : pool.parameters.padType.toLower = padType.name :=
    (PadType.ofText?_eq_some_iff isLowerCasing_toLower).mp fits.mode
  have known := (PadType.mem_names_iff padType.name).mpr ⟨padType, rfl⟩
  have notSame : padType.name ≠ "same" := fun same =>
    fits.ceilSame up (PadType.name_injective same)
  refine (validate_eq_error_iff isLowerCasing_toLower pool input target _).mpr ⟨rfl, ?_⟩
  refine FirstUnmet.append_right (FirstUnmet.append_left ?_ (FirstUnmet.append_left ?_ ?_)) _
  · simp only [List.forall_mem_append, List.forall_mem_singleton, named,
      TensorType.forall_requirements_iff, Parameters.forall_listRequirements_iff]
    have flat : pool.HasOperator .l2Pool → input.rank - 2 ≤ 2 := fun isL2 =>
      fits.flat ((pool.hasOperator_iff _).mp isL2).symm
    exact ⟨⟨⟨⟨fits.elementType, fits.rank, fits.dims⟩, fits.lists⟩, flat⟩, known⟩
  · simp only [List.forall_mem_cons, named]
    exact ⟨fits.ceilFlat, fun _ => notSame, List.forall_mem_nil _⟩
  · refine FirstUnmet.of_range inside (fun before isBefore _ _ => earlier before isBefore) ?_
    exact fun symmetric => uneven (symmetric up given)

/-- A node is accepted exactly if it meets the conditions for some mode. -/
theorem Node.explain_eq_ok_iff_meets {node : Node} {configuration : Configuration}
    {options : Options} {explanation : Explanation} :
    (node.explain configuration options).result = .ok explanation ↔
      ∃ padType, node.resolve.Meets node.input (options.targetUnder configuration) padType ∧
        explanation = node.explained ⟨padType, node.input.shape.spatialExtents⟩ := by
  rw [explain_eq_ok_iff, explanation_eq_ok_iff]
  constructor
  · rintro ⟨valid, validated, rfl⟩
    obtain ⟨meets, extents⟩ := ResolvedPool.validate_eq_ok_iff_meets.mp validated
    exact ⟨valid.padType, meets, by rw [← extents]⟩
  · rintro ⟨padType, meets, rfl⟩
    exact ⟨_, meets.validate, rfl⟩

end Pooling
