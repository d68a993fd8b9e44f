/-
This file settles when reported padding can be listed by a caller instead. The reported amounts, if they
have values, are whole numbers that are not negative, so listing them passes every check but one:
rounding up asks that listed amounts are alike on both sides of an axis, and only of `sameLower` the
amounts need not be. Where the listed node is accepted, on whichever target, it reports the same padding
and the same output.
-/

import Pooling.Catalog
import Pooling.Proofs.AcceptedNode
import Pooling.Proofs.Conditions
import Pooling.Proofs.WholeNumbers

namespace Pooling

open Binary64

/-! ### Amounts in one list -/

namespace Padding

/-- The amounts in front of the axis and behind it, as far as they are there. -/
def amounts (padding : Padding) : List Binary64 :=
  padding.before.toList ++ padding.after.toList

/-- Both amounts are there. -/
def IsFull (padding : Padding) : Prop :=
  ∃ before after, padding = ⟨some before, some after⟩

/-- The amounts on the two sides differ. -/
def Uneven (padding : Padding) : Prop :=
  (operand padding.before).sameValue (operand padding.after) = false

end Padding

section Amounts

variable {paddings : List Padding} (full : ∀ padding ∈ paddings, padding.IsFull)

include full

theorem length_flatMap_amounts : (paddings.flatMap Padding.amounts).length = 2 * paddings.length := by
  induction paddings with
  | nil => rfl
  | cons padding rest inductionHypothesis =>
    obtain ⟨⟨before, after, rfl⟩, restFull⟩ := List.forall_mem_cons.mp full
    rw [List.flatMap_cons, List.length_append, inductionHypothesis restFull, List.length_cons, mul_add,
      add_comm]
    rfl

/-- An axis has its amounts where a caller lists them. -/
theorem getElem?_flatMap_amounts (axis : ℕ) :
    (paddings.flatMap Padding.amounts)[2 * axis]? = paddings[axis]?.bind Padding.before ∧
      (paddings.flatMap Padding.amounts)[2 * axis + 1]? = paddings[axis]?.bind Padding.after := by
  induction paddings generalizing axis with
  | nil => exact ⟨rfl, rfl⟩
  | cons padding rest inductionHypothesis =>
    obtain ⟨⟨before, after, rfl⟩, restFull⟩ := List.forall_mem_cons.mp full
    cases axis with
    | zero => exact ⟨rfl, rfl⟩
    | succ axis => exact inductionHypothesis restFull axis

end Amounts

/-- If amounts differ somewhere, there is a first axis where they do. -/
theorem exists_first_uneven {paddings : List Padding} {padding : Padding} (member : padding ∈ paddings)
    (uneven : padding.Uneven) :
    ∃ (axis : ℕ) (first : Padding), paddings[axis]? = some first ∧ first.Uneven ∧
      ∀ earlier < axis, ∀ other : Padding, paddings[earlier]? = some other → ¬ other.Uneven := by
  classical
  obtain ⟨index, found⟩ := List.mem_iff_getElem?.mp member
  have somewhere : ∃ (axis : ℕ) (first : Padding), paddings[axis]? = some first ∧ first.Uneven :=
    ⟨index, padding, found, uneven⟩
  obtain ⟨axis, ⟨first, firstAt, differs⟩, least⟩ := Nat.findX somewhere
  exact ⟨axis, first, firstAt, differs, fun earlier isEarlier other otherAt otherUneven =>
    least earlier isEarlier ⟨other, otherAt, otherUneven⟩⟩

section Axes

variable {padType : PadType} {extents kernelSizes strides pad : List Binary64}
  (full : ∀ padding ∈ padAmounts padType extents kernelSizes strides pad, padding.IsFull)

include full

/-- With the computed amounts listed, every axis has its own padding listed. -/
theorem axes_flatMap_amounts :
    axes extents kernelSizes strides
        ((padAmounts padType extents kernelSizes strides pad).flatMap Padding.amounts) =
      (axes extents kernelSizes strides pad).map fun axis =>
        { axis with listed := axis.padding padType } := by
  refine List.ext_getElem? fun index => ?_
  obtain ⟨beforeAt, afterAt⟩ := getElem?_flatMap_amounts full index
  have paddingAt : (padAmounts padType extents kernelSizes strides pad)[index]? =
      (axes extents kernelSizes strides pad)[index]?.map fun axis => axis.padding padType :=
    List.getElem?_map
  rw [paddingAt] at beforeAt afterAt
  rw [List.getElem?_map]
  unfold axes at beforeAt afterAt ⊢
  rw [List.getElem?_mapIdx] at beforeAt afterAt ⊢
  rw [List.getElem?_mapIdx]
  cases found : extents[index]? with
  | none => rfl
  | some extent =>
    rw [found] at beforeAt afterAt
    simp only [Option.map_some, beforeAt, afterAt]
    rfl

/-- Listed, the computed amounts are reported again. -/
theorem padAmounts_custom :
    padAmounts .custom extents kernelSizes strides
        ((padAmounts padType extents kernelSizes strides pad).flatMap Padding.amounts) =
      padAmounts padType extents kernelSizes strides pad := by
  conv_lhs => rw [padAmounts, axes_flatMap_amounts full, List.map_map]
  rfl

theorem outputExtents_custom (ceilMode : Bool) :
    outputExtents .custom extents kernelSizes strides
        ((padAmounts padType extents kernelSizes strides pad).flatMap Padding.amounts) ceilMode =
      outputExtents padType extents kernelSizes strides pad ceilMode := by
  rw [outputExtents, axes_flatMap_amounts full, List.map_map]
  rfl

end Axes

/-! ### Reported padding -/

/-- The reported amounts in one list, as a caller lists them. -/
def Explanation.pad (explanation : Explanation) : List Binary64 :=
  explanation.padAmounts.flatMap Padding.amounts

/-- Both amounts of an axis are there if the mode computes them or they were listed. -/
theorem Axis.isFull_padding {axis : Axis} {padType : PadType}
    (listed : padType = .custom → axis.listed.IsFull) : (axis.padding padType).IsFull := by
  cases padType with
  | valid => exact ⟨_, _, rfl⟩
  | same => exact ⟨_, _, rfl⟩
  | sameLower => exact ⟨_, _, rfl⟩
  | custom => exact listed rfl

namespace AcceptedAxis

variable {node : Node} {valid : Validated} {index : ℕ} {axis : Axis} {D K S b a : ℤ}

theorem inside (accepted : AcceptedAxis node valid index axis D K S b a) :
    index < node.input.rank - 2 :=
  accepted.hasAxis.inside

/-- Both amounts of an accepted axis are there under any mode. -/
theorem isFull_padding (accepted : AcceptedAxis node valid index axis D K S b a) (padType : PadType) :
    (axis.padding padType).IsFull := by
  obtain ⟨before, -, after, -, given, -⟩ := accepted.exists_listed
  exact Axis.isFull_padding fun _ => ⟨before, after, given⟩

/-- Reported amounts that have values are whole numbers that are not negative. -/
theorem hasAmounts_of_finite (accepted : AcceptedAxis node valid index axis D K S b a)
    (finite : ∀ amount ∈ (node.explained valid).pad, amount.IsFinite) :
    ∃ before after : ℤ, 0 ≤ before ∧ 0 ≤ after ∧
      (node.explained valid).HasAmounts index before after := by
  obtain ⟨first, -, second, -, given, firstHeld, secondHeld⟩ := accepted.exists_listed
  obtain ⟨before, after, padded⟩ := accepted.isFull_padding valid.padType
  have paddingAt := accepted.amountsAt
  rw [padded] at paddingAt
  have isFinite : ∀ amount ∈ [before, after], amount.IsFinite := fun amount member =>
    finite amount (List.mem_flatMap.mpr ⟨_, List.mem_of_getElem? paddingAt, member⟩)
  obtain ⟨b', a', beforeNonneg, afterNonneg, beforeHeld, afterHeld⟩ :=
    accepted.holds.padding_whole given firstHeld secondHeld accepted.before_nonneg
      accepted.after_nonneg padded (isFinite before (by simp)) (isFinite after (by simp))
  exact ⟨b', a', beforeNonneg, afterNonneg, before, after, paddingAt, beforeHeld, afterHeld⟩

end AcceptedAxis

/-- Amounts that hold whole numbers differ exactly if these do. -/
theorem uneven_iff {before after : Binary64} {b a : ℤ} (beforeHeld : before.Holds b)
    (afterHeld : after.Holds a) : Padding.Uneven ⟨some before, some after⟩ ↔ b ≠ a := by
  show before.sameValue after = false ↔ b ≠ a
  rw [← Bool.not_eq_true, sameValue_iff afterHeld]
  refine not_congr ⟨fun same => Holds.unique beforeHeld same, ?_⟩
  rintro rfl
  exact beforeHeld

namespace Node

/-- The node with these pad amounts listed. -/
def withPad (node : Node) (pad : List Binary64) : Node :=
  { node with attributes := { node.attributes with padType := "custom", pad := some pad } }

theorem resolve_withPad (node : Node) (pad : List Binary64) :
    (node.withPad pad).resolve = ⟨node.resolve.variant,
      { node.resolve.parameters with padType := "custom", pad := pad, padGiven := true }⟩ := by
  cases node with
  | mk id operator input attributes outputType outputTarget => cases operator <;> rfl

/-- Amounts that are not listed are zeros, so they are alike on every axis. -/
theorem symmetric_of_unlisted {node : Node} (unlisted : ¬ node.resolve.parameters.padGiven = true)
    {axis : ℕ} (inside : axis < node.input.rank - 2) : node.resolve.parameters.Symmetric axis := by
  have unset : node.attributes.pad = none := by
    change ¬ node.attributes.pad.isSome = true at unlisted
    rwa [Option.not_isSome_iff_eq_none] at unlisted
  have zeroAt {index : ℕ} (listed : index < 2 * (node.input.rank - 2)) :
      HoldsAt node.resolve.parameters.pad index 0 :=
    ⟨0, by rw [pad_of_unset unset, List.getElem?_replicate_of_lt listed], holds_zero⟩
  exact ⟨0, zeroAt (by omega), zeroAt (by omega)⟩

section Listed

variable {node : Node} {target : String} {valid : Validated}
  (validated : node.resolve.validate node.input target = .ok valid)

include validated

/-- Reported padding belongs to an axis. -/
theorem exists_axis_of_mem {padding : Padding} (member : padding ∈ (node.explained valid).padAmounts) :
    ∃ index axis D K S b a, AcceptedAxis node valid index axis D K S b a ∧
      axis.padding valid.padType = padding := by
  rw [padAmounts_explained] at member
  obtain ⟨axis, axisMember, same⟩ := List.mem_map.mp member
  obtain ⟨index, D, K, S, b, a, accepted⟩ := exists_acceptedAxis_of_mem validated axisMember
  exact ⟨index, axis, D, K, S, b, a, accepted, same⟩

theorem isFull_of_mem : ∀ padding ∈ (node.explained valid).padAmounts, padding.IsFull := by
  intro padding member
  obtain ⟨index, axis, D, K, S, b, a, accepted, rfl⟩ := exists_axis_of_mem validated member
  exact accepted.isFull_padding valid.padType

theorem length_padAmounts : (node.explained valid).padAmounts.length = node.input.rank - 2 := by
  rw [padAmounts_explained, List.length_map, length_checkedAxes validated]

/-- The node with its reported amounts listed comes to the same amounts and the same output. -/
theorem explained_withPad :
    let listed := (node.withPad (node.explained valid).pad).explained ⟨.custom, valid.extents⟩
    listed.padAmounts = (node.explained valid).padAmounts ∧
      listed.outputType = (node.explained valid).outputType := by
  intro listed
  have full := isFull_of_mem validated
  constructor
  · show padAmounts .custom valid.extents _ _ _ = _
    rw [resolve_withPad]
    exact padAmounts_custom full
  · show TensorType.mk _ (Shape.withSpatial _ (outputExtents .custom valid.extents _ _ _ _)) = _
    rw [resolve_withPad]
    exact congrArg (fun extents => TensorType.mk _ (Shape.withSpatial _ extents))
      (outputExtents_custom full _)

/-- The amounts of an axis stand in the list of all amounts where they are looked for. -/
theorem getElem?_pad {axis : ℕ} {before after : Binary64}
    (paddingAt : (node.explained valid).padAmounts[axis]? = some ⟨some before, some after⟩) :
    (node.explained valid).pad[2 * axis]? = some before ∧
      (node.explained valid).pad[2 * axis + 1]? = some after := by
  have listed := getElem?_flatMap_amounts (isFull_of_mem validated) axis
  rw [paddingAt] at listed
  exact listed

theorem holdsAt_pad {axis : ℕ} {b a : ℤ} (has : (node.explained valid).HasAmounts axis b a) :
    HoldsAt (node.explained valid).pad (2 * axis) b ∧
      HoldsAt (node.explained valid).pad (2 * axis + 1) a := by
  obtain ⟨before, after, paddingAt, beforeHeld, afterHeld⟩ := has
  obtain ⟨beforeAt, afterAt⟩ := getElem?_pad validated paddingAt
  exact ⟨⟨before, beforeAt, beforeHeld⟩, ⟨after, afterAt, afterHeld⟩⟩

section Finite

variable (finite : ∀ amount ∈ (node.explained valid).pad, amount.IsFinite)

include finite

theorem exists_hasAmounts {axis : ℕ} (inside : axis < node.input.rank - 2) :
    ∃ before after : ℤ, 0 ≤ before ∧ 0 ≤ after ∧
      (node.explained valid).HasAmounts axis before after := by
  obtain ⟨whole, D, K, S, b, a, accepted⟩ := exists_acceptedAxis validated inside
  exact accepted.hasAmounts_of_finite finite

/-- The list of all amounts may be given as pad amounts. -/
theorem pad_allowed {amount : Binary64} (member : amount ∈ (node.explained valid).pad) :
    ∃ n : ℤ, 0 ≤ n ∧ amount.Holds n := by
  obtain ⟨padding, paddingMember, amountMember⟩ := List.mem_flatMap.mp member
  obtain ⟨index, axis, D, K, S, _, _, accepted, rfl⟩ := exists_axis_of_mem validated paddingMember
  obtain ⟨b, a, beforeNonneg, afterNonneg, before, after, found, beforeHeld, afterHeld⟩ :=
    accepted.hasAmounts_of_finite finite
  rw [Option.some_inj.mp (accepted.amountsAt.symm.trans found)] at amountMember
  rcases List.mem_pair.mp amountMember with rfl | rfl
  · exact ⟨b, beforeNonneg, beforeHeld⟩
  · exact ⟨a, afterNonneg, afterHeld⟩

/-- With its reported amounts listed, the node passes every check before the one that they are alike. -/
theorem fits_withPad :
    (node.withPad (node.explained valid).pad).resolve.Fits node.input .custom := by
  obtain ⟨meets, -⟩ := ResolvedPool.validate_eq_ok_iff_meets.mp validated
  have custom : PadType.ofText? "custom" = some .custom := by decide +kernel
  rw [resolve_withPad]
  refine ⟨meets.elementType, meets.rank, meets.dims, ?_, meets.flat, custom, meets.ceilFlat,
    fun _ => PadType.noConfusion⟩
  rintro (_ | _ | _)
  · exact ⟨(meets.lists .kernelSizes).length, (meets.lists .kernelSizes).whole⟩
  · exact ⟨(meets.lists .strides).length, (meets.lists .strides).whole⟩
  · refine ⟨?_, fun amount member => pad_allowed validated finite member⟩
    show (node.explained valid).pad.length = 2 * (node.input.rank - 2)
    rw [Explanation.pad, length_flatMap_amounts (isFull_of_mem validated),
      length_padAmounts validated]

theorem symmetric_withPad_iff {axis : ℕ} (inside : axis < node.input.rank - 2) :
    (node.withPad (node.explained valid).pad).resolve.parameters.Symmetric axis ↔
      ∀ padding, (node.explained valid).padAmounts[axis]? = some padding → ¬ padding.Uneven := by
  obtain ⟨b, a, -, -, has⟩ := exists_hasAmounts validated finite inside
  obtain ⟨beforeHeldAt, afterHeldAt⟩ := holdsAt_pad validated has
  obtain ⟨before, after, found, beforeHeld, afterHeld⟩ := has
  rw [resolve_withPad]
  constructor
  · rintro ⟨n, first, second⟩ padding paddingAt
    obtain rfl := Option.some_inj.mp (found.symm.trans paddingAt)
    rw [uneven_iff beforeHeld afterHeld, not_not]
    exact (beforeHeldAt.unique first).trans (second.unique afterHeldAt)
  · intro even
    have alike := even _ found
    rw [uneven_iff beforeHeld afterHeld, not_not] at alike
    exact ⟨b, beforeHeldAt, alike ▸ afterHeldAt⟩

/-- Rounding down, or with amounts that are alike on every axis, the node with its reported amounts
listed is accepted on any target. -/
theorem explain_withPad_of_even (configuration : Configuration) (options : Options)
    (even : ¬ (node.resolve.parameters.ceilMode = true ∧
      ∃ padding ∈ (node.explained valid).padAmounts, padding.Uneven)) :
    ((node.withPad (node.explained valid).pad).explain configuration options).result =
      .ok ((node.withPad (node.explained valid).pad).explained ⟨.custom, valid.extents⟩) := by
  obtain ⟨-, extents⟩ := ResolvedPool.validate_eq_ok_iff_meets.mp validated
  refine explain_eq_ok_iff_meets.mpr ⟨.custom, ⟨fits_withPad validated finite, ?_, ?_⟩, ?_⟩
  · intro up _ axis inside
    rw [resolve_withPad] at up
    refine (symmetric_withPad_iff validated finite inside).mpr fun padding paddingAt uneven => ?_
    exact even ⟨up, padding, List.mem_of_getElem? paddingAt, uneven⟩
  · exact fun _ => PadType.noConfusion
  · rw [extents]
    rfl

/-- Rounding up, it is refused on any target for the first axis whose amounts differ. -/
theorem explain_withPad_of_uneven (configuration : Configuration) (options : Options)
    (up : node.resolve.parameters.ceilMode = true) {axis : ℕ} {before after : Binary64}
    (paddingAt : (node.explained valid).padAmounts[axis]? = some ⟨some before, some after⟩)
    (uneven : Padding.Uneven ⟨some before, some after⟩)
    (first : ∀ earlier < axis, ∀ padding : Padding,
      (node.explained valid).padAmounts[earlier]? = some padding → ¬ padding.Uneven) :
    ((node.withPad (node.explained valid).pad).explain configuration options).result =
      .error (.parameter
        ⟨node.operator, .asymmetric (node.explained valid).pad axis before after⟩) := by
  have inside := (List.getElem?_eq_some_iff.mp paddingAt).1
  rw [length_padAmounts validated] at inside
  have symmetricIff (other : ℕ) (otherInside : other < node.input.rank - 2) :=
    symmetric_withPad_iff validated finite otherInside
  have resolved := resolve_withPad node (node.explained valid).pad
  have refused := ResolvedPool.validate_eq_asymmetric (fits_withPad validated finite)
    (options.targetUnder configuration) (by rw [resolved, up]) (by rw [resolved]) inside
    (fun earlier isEarlier =>
      (symmetricIff earlier (isEarlier.trans inside)).mpr (first earlier isEarlier))
    fun symmetric => (symmetricIff axis inside).mp symmetric _ paddingAt uneven
  obtain ⟨beforeListed, afterListed⟩ := getElem?_pad validated paddingAt
  rw [explain_eq_error refused, resolved]
  dsimp only
  rw [beforeListed, afterListed, ← node.operator_resolve]
  rfl

end Finite

/-- Rounding up, only `sameLower` pads the two sides of an axis differently. -/
theorem eq_sameLower_of_uneven (up : node.resolve.parameters.ceilMode = true) {padding : Padding}
    (member : padding ∈ (node.explained valid).padAmounts) (uneven : padding.Uneven) :
    valid.padType = .sameLower := by
  obtain ⟨meets, -⟩ := ResolvedPool.validate_eq_ok_iff_meets.mp validated
  obtain ⟨index, axis, D, K, S, b, a, accepted, rfl⟩ := exists_axis_of_mem validated member
  cases mode : valid.padType with
  | sameLower => rfl
  | same => exact absurd mode (meets.ceilSame up)
  | valid =>
    rw [mode] at uneven
    exact absurd rfl ((uneven_iff holds_zero holds_zero).mp uneven)
  | custom =>
    have symmetric : node.resolve.parameters.Symmetric index := by
      by_cases given : node.resolve.parameters.padGiven = true
      · exact meets.symmetric up given index accepted.inside
      · exact symmetric_of_unlisted given accepted.inside
    obtain ⟨n, ⟨before, beforeAt, beforeHeld⟩, after, afterAt, afterHeld⟩ := symmetric
    have listed : axis.padding .custom = ⟨some before, some after⟩ := by
      rw [Axis.padding, accepted.listed, beforeAt, afterAt]
    rw [mode, listed] at uneven
    exact absurd rfl ((uneven_iff beforeHeld afterHeld).mp uneven)

end Listed

end Node

/-- Reported padding can be listed by a caller. If the reported amounts of an accepted node have values,
the node with these amounts listed is accepted on any target, unless it rounds up and the amounts of an
axis differ; it then reports the same padding and the same output. Otherwise it is refused for the first
axis whose amounts differ, and that happens only if the mode of the node was `sameLower`. -/
theorem reported_padding_can_be_listed (node : Node) (configuration : Configuration)
    (options : Options) (explanation : Explanation)
    (accepted : (node.explain configuration options).result = .ok explanation)
    (finite : ∀ amount ∈ explanation.pad, amount.IsFinite) (otherConfiguration : Configuration)
    (otherOptions : Options) :
    let listed := node.withPad explanation.pad
    ((∃ other, (listed.explain otherConfiguration otherOptions).result = .ok other) ↔
      ¬ (node.attributes.ceilMode = some true ∧
        ∃ padding ∈ explanation.padAmounts, padding.Uneven)) ∧
    (∀ other, (listed.explain otherConfiguration otherOptions).result = .ok other →
      other.padAmounts = explanation.padAmounts ∧ other.outputType = explanation.outputType) ∧
    ∀ failure, (listed.explain otherConfiguration otherOptions).result = .error failure →
      explanation.padType = .sameLower ∧ node.attributes.ceilMode = some true ∧
        ∃ axis before after, explanation.padAmounts[axis]? = some ⟨some before, some after⟩ ∧
          Padding.Uneven ⟨some before, some after⟩ ∧
          (∀ earlier < axis, ∀ padding, explanation.padAmounts[earlier]? = some padding →
            ¬ padding.Uneven) ∧
          failure =
            .parameter ⟨node.operator, .asymmetric explanation.pad axis before after⟩ := by
  intro listed
  obtain ⟨valid, validated, rfl⟩ :=
    Node.explanation_eq_ok_iff.mp (Node.explain_eq_ok_iff.mp accepted)
  have upIff := node.ceilMode_resolve_iff
  by_cases differ : node.resolve.parameters.ceilMode = true ∧
      ∃ padding ∈ (node.explained valid).padAmounts, padding.Uneven
  · obtain ⟨up, somePadding, someMember, someUneven⟩ := differ
    obtain ⟨axis, padding, paddingAt, uneven, first⟩ := exists_first_uneven someMember someUneven
    have member := List.mem_of_getElem? paddingAt
    obtain ⟨before, after, rfl⟩ := Node.isFull_of_mem validated padding member
    have refused := Node.explain_withPad_of_uneven validated finite otherConfiguration otherOptions up
      paddingAt uneven first
    refine ⟨iff_of_false ?_ (not_not.mpr ⟨upIff.mp up, _, member, uneven⟩), fun other same => ?_,
      fun failure failed => ?_⟩
    · rintro ⟨other, same⟩
      cases refused.symm.trans same
    · cases refused.symm.trans same
    · obtain rfl := Except.error.inj (refused.symm.trans failed)
      exact ⟨Node.eq_sameLower_of_uneven validated up member uneven, upIff.mp up, axis, before, after,
        paddingAt, uneven, first, rfl⟩
  · have listedAccepted :=
      Node.explain_withPad_of_even validated finite otherConfiguration otherOptions differ
    rw [upIff] at differ
    refine ⟨iff_of_true ⟨_, listedAccepted⟩ differ, fun other same => ?_, fun failure failed => ?_⟩
    · obtain rfl := Except.ok.inj (listedAccepted.symm.trans same)
      exact Node.explained_withPad validated
    · cases listedAccepted.symm.trans failed

/-- Four windows of which the last ends in the padding, rounding up, on the second of two axes. -/
def paddedSecondNode : Node :=
  Node.create 1 .avgPool ⟨"fp32", .ofExtents [1, 1, 9, 10]⟩
    { Attributes.required [3, 4] "same_lower" with
      strides := some [3, 3]
      ceilMode := some true }

theorem uneven_padding_cannot_be_listed :
    (paddedSecondNode.explain ⟨.opset16, false⟩ ⟨none, none⟩).result =
        .ok (paddedSecondNode.explained ⟨.sameLower, [9, 10]⟩) ∧
      (paddedSecondNode.explained ⟨.sameLower, [9, 10]⟩).pad = [0, 0, 2, 1] ∧
      (∀ amount ∈ (paddedSecondNode.explained ⟨.sameLower, [9, 10]⟩).pad, amount.IsFinite) ∧
      ((paddedSecondNode.withPad [0, 0, 2, 1]).explain ⟨.opset15, false⟩ ⟨none, none⟩).result =
        .error (.parameter ⟨.avgPool, .asymmetric [0, 0, 2, 1] 1 2 1⟩) := by
  have accepted : (paddedSecondNode.explain ⟨.opset16, false⟩ ⟨none, none⟩).result =
      .ok (paddedSecondNode.explained ⟨.sameLower, [9, 10]⟩) := by decide +kernel
  have amounts : (paddedSecondNode.explained ⟨.sameLower, [9, 10]⟩).padAmounts =
      [⟨some 0, some 0⟩, ⟨some 2, some 1⟩] := by decide +kernel
  have pad : (paddedSecondNode.explained ⟨.sameLower, [9, 10]⟩).pad = [0, 0, 2, 1] := by
    rw [Explanation.pad, amounts]
    rfl
  have finite : ∀ amount ∈ (paddedSecondNode.explained ⟨.sameLower, [9, 10]⟩).pad,
      amount.IsFinite := by
    rw [pad]
    simp only [List.forall_mem_cons]
    exact ⟨⟨0, holds_zero⟩, ⟨0, holds_zero⟩, ⟨2, holds_two⟩, ⟨1, holds_one⟩, List.forall_mem_nil _⟩
  obtain ⟨acceptedIff, -, refused⟩ := reported_padding_can_be_listed paddedSecondNode _ _ _ accepted
    finite ⟨.opset15, false⟩ ⟨none, none⟩
  rw [pad, amounts] at acceptedIff refused
  refine ⟨accepted, pad, finite, ?_⟩
  have uneven : Padding.Uneven ⟨some 2, some 1⟩ := (uneven_iff holds_two holds_one).mpr (by decide)
  cases answer :
      ((paddedSecondNode.withPad [0, 0, 2, 1]).explain ⟨.opset15, false⟩ ⟨none, none⟩).result with
  | ok other => exact absurd ⟨rfl, _, by simp, uneven⟩ (acceptedIff.mp ⟨other, answer⟩)
  | error failure =>
    obtain ⟨-, -, axis, before, after, paddingAt, differs, -, rfl⟩ := refused failure answer
    rcases axis with _ | _ | axis
    · cases paddingAt
      exact absurd rfl ((uneven_iff holds_zero holds_zero).mp differs)
    · cases paddingAt
      rfl
    · cases paddingAt

end Pooling
