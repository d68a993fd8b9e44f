/-
This file says what an accepted node has at each spatial axis: an extent, a kernel, a stride and two
listed amounts of padding, all of them whole numbers in their ranges, from which the reported padding
and the extent of the output are computed. The numbers of different axes do not meet.
-/

import Pooling.Proofs.Acceptance
import Pooling.Proofs.Calls
import Pooling.Proofs.ExactAxis

namespace Pooling

open Binary64

/-! ### One axis of an accepted node -/

theorem length_axes (extents kernelSizes strides pad : List Binary64) :
    (axes extents kernelSizes strides pad).length = extents.length :=
  List.length_mapIdx

/-- The axes that the output of a valid node is computed from. -/
def Node.checkedAxes (node : Node) (valid : Validated) : List Axis :=
  axes valid.extents node.resolve.parameters.kernelSizes node.resolve.parameters.strides
    node.resolve.parameters.pad

/-- The spatial axis of a node with the whole numbers that were checked. -/
structure AcceptedAxis (node : Node) (valid : Validated) (index : ℕ) (axis : Axis)
    (extent kernel stride before after : ℤ) : Prop where
  found : (node.checkedAxes valid)[index]? = some axis
  extentAt : node.input.shape[index + 2]? = some (.extent axis.extent)
  kernelAt : node.resolve.parameters.kernelSizes[index]? = some axis.kernel
  strideAt : node.resolve.parameters.strides[index]? = some axis.stride
  beforeAt : HoldsAt node.resolve.parameters.pad (2 * index) before
  afterAt : HoldsAt node.resolve.parameters.pad (2 * index + 1) after
  listed : axis.listed = ⟨node.resolve.parameters.pad[2 * index]?,
    node.resolve.parameters.pad[2 * index + 1]?⟩
  holds : axis.Holds extent kernel stride
  before_nonneg : 0 ≤ before
  after_nonneg : 0 ≤ after

section Accepted

variable {node : Node} {target : String} {valid : Validated}

/-- An accepted node has as many extents as spatial axes. -/
theorem length_extents (accepted : node.resolve.validate node.input target = .ok valid) :
    valid.extents.length = node.input.rank - 2 := by
  obtain ⟨-, -, dims⟩ :=
    (validate_eq_ok_iff isLowerCasing_toLower node.resolve node.input target valid).mp accepted
  have equal := congrArg List.length dims
  rw [List.length_drop, List.length_map] at equal
  exact equal.symm

/-- An accepted node is computed from as many axes as it has spatial ones. -/
theorem length_checkedAxes (accepted : node.resolve.validate node.input target = .ok valid) :
    (node.checkedAxes valid).length = node.input.rank - 2 := by
  rw [Node.checkedAxes, length_axes, length_extents accepted]

/-- Every spatial axis of an accepted node is there. -/
theorem exists_acceptedAxis (accepted : node.resolve.validate node.input target = .ok valid)
    {index : ℕ} (inside : index < node.input.rank - 2) :
    ∃ axis extent kernel stride before after,
      AcceptedAxis node valid index axis extent kernel stride before after := by
  obtain ⟨all, -, dims⟩ :=
    (validate_eq_ok_iff isLowerCasing_toLower node.resolve node.input target valid).mp accepted
  have listAllowed := ResolvedPool.list_allowed all
  have insideExtents : index < valid.extents.length := (length_extents accepted).symm ▸ inside
  have extentAt : node.input.shape[index + 2]? = some (.extent valid.extents[index]) := by
    rw [Nat.add_comm, ← List.getElem?_drop, dims, List.getElem?_map,
      List.getElem?_eq_getElem insideExtents]
    rfl
  obtain ⟨D, extentHeld⟩ := TensorType.allowedAt (ResolvedPool.input_allowed all) extentAt
  obtain ⟨K, kernelPos, kernel, kernelAt, kernelHeld⟩ :=
    AxisList.holdsAt (listAllowed .kernelSizes) index inside
  obtain ⟨S, stridePos, stride, strideAt, strideHeld⟩ :=
    AxisList.holdsAt (listAllowed .strides) index inside
  obtain ⟨b, beforeNonneg, beforeAt⟩ :=
    AxisList.holdsAt (listAllowed .pad) (2 * index)
      (by simp only [AxisList.countFor]; omega)
  obtain ⟨a, afterNonneg, afterAt⟩ :=
    AxisList.holdsAt (listAllowed .pad) (2 * index + 1)
      (by simp only [AxisList.countFor]; omega)
  dsimp only [AxisList.values] at kernelAt strideAt
  refine ⟨⟨valid.extents[index], kernel, stride, ⟨node.resolve.parameters.pad[2 * index]?,
    node.resolve.parameters.pad[2 * index + 1]?⟩⟩, D, K, S, b, a, ?_⟩
  refine ⟨?_, extentAt, kernelAt, strideAt, beforeAt, afterAt, rfl,
    ⟨extentHeld, kernelHeld, strideHeld, ⟨Int.natCast_nonneg D, kernelPos, stridePos⟩⟩,
    beforeNonneg, afterNonneg⟩
  rw [Node.checkedAxes, axes, List.getElem?_mapIdx, List.getElem?_eq_getElem insideExtents,
    Option.map_some, kernelAt, strideAt]
  rfl

/-- Every axis that is computed with is the spatial axis of a node. -/
theorem exists_acceptedAxis_of_mem (accepted : node.resolve.validate node.input target = .ok valid)
    {axis : Axis} (member : axis ∈ node.checkedAxes valid) :
    ∃ index extent kernel stride before after,
      AcceptedAxis node valid index axis extent kernel stride before after := by
  obtain ⟨index, found⟩ := List.mem_iff_getElem?.mp member
  have inside := (List.getElem?_eq_some_iff.mp found).1
  rw [length_checkedAxes accepted] at inside
  obtain ⟨same, D, K, S, b, a, holds⟩ := exists_acceptedAxis accepted inside
  obtain rfl : same = axis := Option.some_inj.mp (holds.found.symm.trans found)
  exact ⟨index, D, K, S, b, a, holds⟩

end Accepted

/-! ### Explanations axis by axis -/

namespace Node

theorem padAmounts_explained (node : Node) (valid : Validated) :
    (node.explained valid).padAmounts =
      (node.checkedAxes valid).map fun axis => axis.padding valid.padType :=
  rfl

theorem outputType_explained (node : Node) (valid : Validated) :
    (node.explained valid).outputType = ⟨node.input.elementType, node.input.shape.withSpatial
      ((node.checkedAxes valid).map fun axis =>
        axis.windows (axis.padding valid.padType) node.resolve.parameters.ceilMode)⟩ :=
  rfl

section Shape

variable {node : Node} {target : String} {valid : Validated}
  (accepted : node.resolve.validate node.input target = .ok valid)

include accepted

theorem length_leading_of_accepted : (node.input.shape.take 2).length = 2 := by
  obtain ⟨all, -⟩ :=
    (validate_eq_ok_iff isLowerCasing_toLower node.resolve node.input target valid).mp accepted
  have ranked : 3 ≤ node.input.shape.length :=
    (TensorType.rank_bounds (ResolvedPool.input_allowed all)).1
  rw [List.length_take]
  omega

/-- The output of a valid node keeps batch and channel. -/
theorem take_outputType : (node.explained valid).outputType.shape.take 2 = node.input.shape.take 2 :=
  List.take_left' (length_leading_of_accepted accepted)

/-- Behind them it has an extent for every axis. -/
theorem drop_outputType : (node.explained valid).outputType.shape.drop 2 =
    ((node.checkedAxes valid).map fun axis =>
      axis.windows (axis.padding valid.padType) node.resolve.parameters.ceilMode).map Dim.extent :=
  List.drop_left' (length_leading_of_accepted accepted)

theorem rank_outputType : (node.explained valid).outputType.rank = node.input.rank := by
  have spatial := congrArg List.length (drop_outputType accepted)
  have leading := congrArg List.length (take_outputType accepted)
  have inputLeading := length_leading_of_accepted accepted
  rw [List.length_map, List.length_map, length_checkedAxes accepted, List.length_drop] at spatial
  rw [List.length_take, List.length_take] at leading
  rw [List.length_take] at inputLeading
  unfold TensorType.rank at spatial ⊢
  omega

end Shape

end Node

/-! ### Whole numbers at an axis -/

/-- The extent, the kernel and the stride of a node at a spatial axis are these whole numbers. Where no
strides are set, the stride of every axis is one. -/
structure Node.HasAxis (node : Node) (axis : ℕ) (extent kernel stride : ℤ) : Prop where
  extent : ∃ size, node.input.shape[axis + 2]? = some (.extent size) ∧ size.Holds extent
  kernel : HoldsAt node.attributes.kernelSizes axis kernel
  stride : HoldsAt (node.attributes.strides.getD (List.replicate (node.input.rank - 2) 1)) axis stride

/-- The amounts of padding that an explanation reports for an axis are these whole numbers. -/
def Explanation.HasAmounts (explanation : Explanation) (axis : ℕ) (before after : ℤ) : Prop :=
  ∃ first second, explanation.padAmounts[axis]? = some ⟨some first, some second⟩ ∧
    first.Holds before ∧ second.Holds after

/-- The extent of the output at a spatial axis is this whole number. -/
def Explanation.HasOutput (explanation : Explanation) (axis : ℕ) (out : ℤ) : Prop :=
  ∃ size, explanation.outputType.shape[axis + 2]? = some (.extent size) ∧ size.Holds out

/-- An extent of a shape is one whole number at most. -/
theorem Shape.extent_unique {shape : Shape} {index : ℕ} {n m : ℤ}
    (first : ∃ size, shape[index]? = some (.extent size) ∧ size.Holds n)
    (second : ∃ size, shape[index]? = some (.extent size) ∧ size.Holds m) : n = m := by
  obtain ⟨size, found, held⟩ := first
  obtain ⟨size', found', held'⟩ := second
  obtain rfl : size = size' := Dim.extent.inj (Option.some_inj.mp (found.symm.trans found'))
  exact held.unique held'

theorem Node.HasAxis.unique {node : Node} {axis : ℕ} {D K S D' K' S' : ℤ}
    (first : node.HasAxis axis D K S) (second : node.HasAxis axis D' K' S') :
    D = D' ∧ K = K' ∧ S = S' :=
  ⟨Shape.extent_unique first.extent second.extent, first.kernel.unique second.kernel,
    first.stride.unique second.stride⟩

theorem Node.HasAxis.inside {node : Node} {axis : ℕ} {D K S : ℤ} (has : node.HasAxis axis D K S) :
    axis < node.input.rank - 2 := by
  obtain ⟨size, found, -⟩ := has.extent
  have behind := (List.getElem?_eq_some_iff.mp found).1
  unfold TensorType.rank
  omega

theorem Explanation.HasAmounts.unique {explanation : Explanation} {axis : ℕ} {b a b' a' : ℤ}
    (first : explanation.HasAmounts axis b a) (second : explanation.HasAmounts axis b' a') :
    b = b' ∧ a = a' := by
  obtain ⟨before, after, found, beforeHeld, afterHeld⟩ := first
  obtain ⟨before', after', found', beforeHeld', afterHeld'⟩ := second
  obtain ⟨rfl, rfl⟩ : before = before' ∧ after = after' := by simpa [found] using found'
  exact ⟨beforeHeld.unique beforeHeld', afterHeld.unique afterHeld'⟩

theorem Explanation.HasOutput.unique {explanation : Explanation} {axis : ℕ} {out out' : ℤ}
    (first : explanation.HasOutput axis out) (second : explanation.HasOutput axis out') :
    out = out' :=
  Shape.extent_unique first second

/-! ### What the explanation shows at an axis -/

namespace AcceptedAxis

variable {node : Node} {valid : Validated} {index : ℕ} {axis : Axis} {D K S b a : ℤ}

theorem amountsAt (accepted : AcceptedAxis node valid index axis D K S b a) :
    (node.explained valid).padAmounts[index]? = some (axis.padding valid.padType) := by
  rw [node.padAmounts_explained valid, List.getElem?_map, accepted.found, Option.map_some]

theorem outputAt (accepted : AcceptedAxis node valid index axis D K S b a) :
    (node.explained valid).outputType.shape[index + 2]? =
      some (.extent (axis.windows (axis.padding valid.padType) node.resolve.parameters.ceilMode)) := by
  have leading : (node.input.shape.take 2).length = 2 := by
    have inside := (List.getElem?_eq_some_iff.mp accepted.extentAt).1
    rw [List.length_take]
    omega
  rw [node.outputType_explained valid, Shape.withSpatial, Shape.leadingRank,
    List.getElem?_append_right (by omega), leading, Nat.add_sub_cancel, List.getElem?_map,
    List.getElem?_map, accepted.found, Option.map_some, Option.map_some]

theorem hasAxis (accepted : AcceptedAxis node valid index axis D K S b a) :
    node.HasAxis index D K S :=
  ⟨⟨axis.extent, accepted.extentAt, accepted.holds.extentHeld⟩,
    ⟨axis.kernel, accepted.kernelAt, accepted.holds.kernelHeld⟩,
    ⟨axis.stride, accepted.strideAt, accepted.holds.strideHeld⟩⟩

/-- The two amounts that are listed for an axis, which are entries of the node's list. -/
theorem exists_listed (accepted : AcceptedAxis node valid index axis D K S b a) :
    ∃ before ∈ node.resolve.parameters.pad, ∃ after ∈ node.resolve.parameters.pad,
      axis.listed = ⟨some before, some after⟩ ∧ before.Holds b ∧ after.Holds a := by
  obtain ⟨before, beforeAt, beforeHeld⟩ := accepted.beforeAt
  obtain ⟨after, afterAt, afterHeld⟩ := accepted.afterAt
  refine ⟨before, List.mem_of_getElem? beforeAt, after, List.mem_of_getElem? afterAt, ?_, beforeHeld,
    afterHeld⟩
  rw [accepted.listed, beforeAt, afterAt]

/-- The amounts reported for an axis are the exact ones, as long as the total of a `same` mode is exact.
The extent of the output is the exact number of windows, as long as the padded axis stays within the
whole numbers that the format holds. -/
theorem reported (accepted : AcceptedAxis node valid index axis D K S b a)
    (bounded : D + K + S ≤ 2 ^ 53) :
    let amounts := exactPadding valid.padType D K S (b, a)
    (node.explained valid).HasAmounts index amounts.1 amounts.2 ∧
      (D + K + S + amounts.1 + amounts.2 ≤ 2 ^ 53 →
        (node.explained valid).outputType.shape[index + 2]? =
          some (.extent (ofInt (exactWindows D K S amounts.1 amounts.2
            node.resolve.parameters.ceilMode)))) := by
  intro amounts
  obtain ⟨first, -, second, -, given, firstHeld, secondHeld⟩ := accepted.exists_listed
  obtain ⟨before, after, padded, beforeHeld, afterHeld⟩ :=
    accepted.holds.padding_holds bounded valid.padType (b, a) given firstHeld secondHeld
  obtain ⟨beforeNonneg, afterNonneg⟩ := exactPadding_nonneg valid.padType D K S
    (b, a) accepted.before_nonneg accepted.after_nonneg
  refine ⟨⟨before, after, by rw [accepted.amountsAt, padded], beforeHeld, afterHeld⟩, ?_⟩
  intro wide
  rw [accepted.outputAt, padded,
    accepted.holds.windows_eq beforeHeld afterHeld beforeNonneg afterNonneg wide]

end AcceptedAxis

end Pooling
