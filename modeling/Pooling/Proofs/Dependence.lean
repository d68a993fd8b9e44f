/-
This file shows what the answer of a node may depend on. Two nodes with the same spatial part may differ
in their batch and channel dims, in their element types as long as both are accepted, in their operators
as long as the limit of none is reached, in the way their modes are written, and in all that is no part
of the operation. Every check then comes to the same decision for both, only that its fault is worded
with the shape and the text of the node at hand, and both compute from the same axes. Where the mode is
not to take the listed amounts, these matter to the checks only.
-/

import Pooling.Catalog
import Pooling.Proofs.AcceptedNode
import Pooling.Proofs.Conditions

namespace Pooling

/-! ### Faults of another input -/

/-- The fault as it is worded for another shape and another text of the padding mode. -/
def Fault.restated (shape : Shape) (text : String) : Fault → Fault
  | .rank _ => .rank shape
  | .extent index found _ => .extent index found shape
  | .padType _ => .padType text
  | fault => fault

/-- The same dim has the same fault in another shape. -/
theorem Shape.dimFault?_restated (shape other : Shape) (text : String) (index : ℕ) (dim : Dim) :
    other.dimFault? index dim = (shape.dimFault? index dim).map (Fault.restated other text) := by
  unfold dimFault?
  cases dim with
  | symbol name =>
    dsimp only
    split
    · split <;> rfl
    · rfl
  | extent size =>
    dsimp only
    split <;> rfl

/-- Batch and channel are allowed in the shape. -/
def Shape.LeadingAllowed (shape : Shape) : Prop :=
  ∀ index < 2, ∀ dim, shape[index]? = some dim → dim.AllowedAt index

/-- Behind batch and channel that are allowed, the first fault is that of a spatial dim. -/
theorem Shape.fault?_of_leadingAllowed {shape : Shape} (allowed : shape.LeadingAllowed) :
    shape.fault? = ((shape.drop 2).zipIdx (min 2 shape.length)).findSome? fun (dim, index) =>
      shape.dimFault? index dim := by
  have split : shape.zipIdx =
      (shape.take 2).zipIdx ++ (shape.drop 2).zipIdx (min 2 shape.length) := by
    conv_lhs => rw [← List.take_append_drop 2 shape]
    rw [List.zipIdx_append, List.length_take, Nat.zero_add]
  have nothing : (shape.take 2).zipIdx.findSome? (fun (dim, index) => shape.dimFault? index dim) =
      none := by
    refine List.findSome?_eq_none_iff.mpr fun (dim, index) member => ?_
    have found := List.mk_mem_zipIdx_iff_getElem?.mp member
    have leading : index < 2 := by
      have inside := (List.getElem?_eq_some_iff.mp found).1
      rw [List.length_take] at inside
      omega
    rw [List.getElem?_take_of_lt leading] at found
    exact (reports_dim shape index dim).eq_none_iff.mpr
      (List.forall_mem_singleton.mpr (allowed index leading dim found))
  rw [fault?_eq, split, List.findSome?_append, nothing, Option.none_or]

/-- Input types with accepted element types and allowed leading dims have the same first fault if their
ranks and their spatial dims are equal. -/
theorem TensorType.fault?_restated {input other : TensorType} (text : String)
    (element : input.elementType = "fp16" ∨ input.elementType = "fp32")
    (otherElement : other.elementType = "fp16" ∨ other.elementType = "fp32")
    (allowed : input.shape.LeadingAllowed) (otherAllowed : other.shape.LeadingAllowed)
    (rank : other.rank = input.rank) (spatial : other.shape.drop 2 = input.shape.drop 2) :
    other.fault? = input.fault?.map (Fault.restated other.shape text) := by
  have known := not_not.mpr ((elementTypes_iff _).mpr element)
  have otherKnown := not_not.mpr ((elementTypes_iff _).mpr otherElement)
  unfold TensorType.fault?
  rw [if_neg known, if_neg otherKnown, rank]
  split
  · rfl
  · have lengths : other.shape.length = input.shape.length := rank
    rw [Shape.fault?_of_leadingAllowed allowed, Shape.fault?_of_leadingAllowed otherAllowed, spatial,
      lengths, List.map_findSome?]
    refine congrArg (List.findSome? · _) (funext fun (dim, index) => ?_)
    exact Shape.dimFault?_restated input.shape other.shape text index dim

/-! ### Faults that are not reworded -/

section Restated

variable (shape : Shape) (text : String)

theorem AxisList.fault?_restated (list : AxisList) {parameters other : Parameters}
    (values : list.values other = list.values parameters) (spatialRank : Binary64) :
    list.fault? other spatialRank =
      (list.fault? parameters spatialRank).map (Fault.restated shape text) := by
  unfold fault?
  rw [values]
  dsimp only
  split
  · rfl
  · split <;> rfl

theorem Parameters.asymmetry?_restated {parameters other : Parameters}
    (pad : other.pad = parameters.pad) (axis : ℕ) :
    other.asymmetry? axis = (parameters.asymmetry? axis).map (Fault.restated shape text) := by
  unfold asymmetry?
  rw [pad]
  dsimp only
  split <;> rfl

theorem Parameters.ceilFault?_restated {parameters other : Parameters}
    (ceilMode : other.ceilMode = parameters.ceilMode) (pad : other.pad = parameters.pad)
    (given : other.padGiven = parameters.padGiven) (padType : PadType) (spatialRank : ℕ) :
    other.ceilFault? padType spatialRank =
      (parameters.ceilFault? padType spatialRank).map (Fault.restated shape text) := by
  have amounts : (List.range spatialRank).findSome? other.asymmetry? =
      ((List.range spatialRank).findSome? parameters.asymmetry?).map
        (Fault.restated shape text) := by
    rw [List.map_findSome?]
    exact congrArg (List.findSome? · _) (funext (Parameters.asymmetry?_restated shape text pad))
  unfold ceilFault?
  rw [ceilMode, given, amounts]
  split
  · rfl
  split
  · rfl
  split
  · rfl
  split <;> rfl

/-- Only whether the target is the earliest one matters. -/
theorem PadType.targetFault?_restated (padType : PadType) {target other : String}
    (targets : other = "opset15" ↔ target = "opset15") :
    padType.targetFault? other =
      (padType.targetFault? target).map (Fault.restated shape text) := by
  by_cases early : target = "opset15"
  · rw [targets.mpr early, early]
    unfold targetFault?
    split <;> rfl
  · rw [padType.targetFault?_of_late early, padType.targetFault?_of_late (targets.not.mpr early)]
    rfl

end Restated

/-- No operator reaches its limit on an input of rank four, and only one has a limit. -/
theorem Operator.rankFault?_eq_none {operator : Operator} {shape : Shape}
    (within : shape.length ≤ 4 ∨ operator ≠ .l2Pool) :
    operator.rankFault? shape.spatialExtents.length = none := by
  refine if_neg ?_
  rintro ⟨isL2, deep⟩
  rcases within with low | other
  · have few := Shape.length_spatialExtents_le shape
    unfold flatRank at deep
    omega
  · exact other isL2

theorem PadType.ofText?_eq_of_lower {lower : String → String} (lowerCasing : IsLowerCasing lower)
    {first second : String} (same : lower second = lower first) :
    PadType.ofText? second = PadType.ofText? first := by
  ext padType
  rw [PadType.ofText?_eq_some_iff lowerCasing, PadType.ofText?_eq_some_iff lowerCasing, same]

theorem map_orElse {First Second : Type} (project : First → Second) (first second : Option First) :
    (first <|> second).map project = (first.map project <|> second.map project) := by
  cases first <;> rfl

/-! ### Axes without the listed amounts -/

/-- What does not look at the listed amounts of an axis comes to the same for other amounts. -/
theorem map_axes_of_listless {Result : Type} {compute : Axis → Result}
    (listless : ∀ axis listed, compute { axis with listed := listed } = compute axis)
    (extents kernelSizes strides pad other : List Binary64) :
    (axes extents kernelSizes strides pad).map compute =
      (axes extents kernelSizes strides other).map compute := by
  refine List.ext_getElem? fun index => ?_
  unfold axes
  rw [List.getElem?_map, List.getElem?_map, List.getElem?_mapIdx, List.getElem?_mapIdx,
    Option.map_map, Option.map_map]
  refine congrArg (Option.map · extents[index]?) (funext fun extent => ?_)
  exact (listless ⟨extent, _, _, _⟩ _).symm

/-! ### Nodes with the same spatial part -/

/-- The nodes have the same spatial part, and what else they have is accepted of both. -/
structure Node.Alike (lower : String → String) (first second : Node) : Prop where
  rank : second.input.rank = first.input.rank
  element : first.input.elementType = "fp16" ∨ first.input.elementType = "fp32"
  otherElement : second.input.elementType = "fp16" ∨ second.input.elementType = "fp32"
  leading : first.input.shape.LeadingAllowed
  otherLeading : second.input.shape.LeadingAllowed
  spatial : second.input.shape.drop 2 = first.input.shape.drop 2
  kernelSizes : second.attributes.kernelSizes = first.attributes.kernelSizes
  strides : second.resolve.parameters.strides = first.resolve.parameters.strides
  ceilMode : second.resolve.parameters.ceilMode = first.resolve.parameters.ceilMode
  mode : lower second.attributes.padType = lower first.attributes.padType
  operators : first.input.rank ≤ 4 ∨ first.operator ≠ .l2Pool ∧ second.operator ≠ .l2Pool

/-- The nodes have the same pad amounts, listed by both or by none. -/
structure Node.SamePad (first second : Node) : Prop where
  pad : second.resolve.parameters.pad = first.resolve.parameters.pad
  given : second.resolve.parameters.padGiven = first.resolve.parameters.padGiven

namespace Node.Alike

variable {lower : String → String} {first second : Node} {target other : String}
  (alike : first.Alike lower second)

include alike

theorem spatialExtents : second.input.shape.spatialExtents = first.input.shape.spatialExtents := by
  unfold Shape.spatialExtents Shape.leadingRank
  rw [alike.spatial]

/-- Both texts name the same mode, or both name none. -/
theorem ofText?_eq (lowerCasing : IsLowerCasing lower) :
    PadType.ofText? second.resolve.parameters.padType =
      PadType.ofText? first.resolve.parameters.padType :=
  PadType.ofText?_eq_of_lower lowerCasing alike.mode

theorem values_eq (same : first.SamePad second) (list : AxisList) :
    list.values second.resolve.parameters = list.values first.resolve.parameters := by
  cases list with
  | kernelSizes => exact alike.kernelSizes
  | strides => exact alike.strides
  | pad => exact same.pad

/-- Neither operator reaches its limit. -/
theorem rankFault?_eq_none :
    first.resolve.operator.rankFault? first.input.shape.spatialExtents.length = none ∧
      second.resolve.operator.rankFault? first.input.shape.spatialExtents.length = none := by
  rw [first.operator_resolve, second.operator_resolve]
  exact ⟨Operator.rankFault?_eq_none (alike.operators.imp_right And.left),
    Operator.rankFault?_eq_none (alike.operators.imp_right And.right)⟩

/-- With the same pad amounts the first fault is the same, worded for the node at hand. -/
theorem fault?_eq (lowerCasing : IsLowerCasing lower) (same : first.SamePad second)
    (targets : other = "opset15" ↔ target = "opset15") :
    second.resolve.fault? second.input other =
      (first.resolve.fault? first.input target).map
        (Fault.restated second.input.shape second.attributes.padType) := by
  have input := TensorType.fault?_restated second.attributes.padType alike.element alike.otherElement
    alike.leading alike.otherLeading alike.rank alike.spatial
  obtain ⟨operator, otherOperator⟩ := alike.rankFault?_eq_none
  -- Kept opaque, so that rewriting the extents below does not reach into it.
  generalize restating : Fault.restated second.input.shape second.attributes.padType = restate
  have lists (spatialRank : Binary64) :
      (AxisList.all.findSome? fun list => list.fault? second.resolve.parameters spatialRank) =
        (AxisList.all.findSome? fun list =>
          list.fault? first.resolve.parameters spatialRank).map restate := by
    rw [List.map_findSome?, ← restating]
    exact congrArg (List.findSome? · _)
      (funext fun list => list.fault?_restated _ _ (alike.values_eq same list) spatialRank)
  have unknown (mode : Option PadType) :
      (if mode = none then some (Fault.padType second.attributes.padType) else none) =
        (if mode = none then some (Fault.padType first.attributes.padType) else none).map
          restate := by
    rw [← restating]
    split <;> rfl
  have rounding (mode : Option PadType) (spatialRank : ℕ) :
      (mode.bind fun padType => second.resolve.parameters.ceilFault? padType spatialRank) =
        (mode.bind fun padType =>
          first.resolve.parameters.ceilFault? padType spatialRank).map restate := by
    rw [Option.map_bind, ← restating]
    exact congrArg (Option.bind mode) (funext fun padType =>
      Parameters.ceilFault?_restated _ _ alike.ceilMode same.pad same.given padType spatialRank)
  have support (mode : Option PadType) :
      (mode.bind fun padType => padType.targetFault? other) =
        (mode.bind fun padType => padType.targetFault? target).map restate := by
    rw [Option.map_bind, ← restating]
    exact congrArg (Option.bind mode) (funext fun padType =>
      padType.targetFault?_restated _ _ targets)
  unfold ResolvedPool.fault?
  dsimp only
  rw [map_orElse, map_orElse, map_orElse, map_orElse, map_orElse, input, restating,
    alike.spatialExtents, alike.ofText?_eq lowerCasing, lists, operator, otherOperator, rounding,
    support]
  exact congrArg (fun fault => ((_ <|> fault) <|> _) <|> _) (unknown _)

/-- So both are found valid alike, or both are refused by the same check. -/
theorem validate_cases (lowerCasing : IsLowerCasing lower) (same : first.SamePad second)
    (targets : other = "opset15" ↔ target = "opset15") :
    (∃ valid, first.resolve.validate first.input target = .ok valid ∧
      second.resolve.validate second.input other = .ok valid) ∨
    ∃ fault, first.resolve.validate first.input target = .error ⟨first.operator, fault⟩ ∧
      second.resolve.validate second.input other = .error ⟨second.operator,
        fault.restated second.input.shape second.attributes.padType⟩ := by
  have faults := alike.fault?_eq lowerCasing same targets
  rcases Pooling.validate_cases lowerCasing first.resolve first.input target with
    ⟨nothing, padType, named, accepted⟩ | ⟨fault, something, refused⟩
  · rw [nothing, Option.map_none] at faults
    rcases Pooling.validate_cases lowerCasing second.resolve second.input other with
      ⟨-, otherPadType, otherNamed, otherAccepted⟩ | ⟨fault, something, -⟩
    · obtain rfl : otherPadType = padType :=
        PadType.name_injective (otherNamed.symm.trans (alike.mode.trans named))
      rw [alike.spatialExtents] at otherAccepted
      exact Or.inl ⟨_, accepted, otherAccepted⟩
    · cases faults.symm.trans something
  · rw [something, Option.map_some] at faults
    rcases Pooling.validate_cases lowerCasing second.resolve second.input other with
      ⟨nothing, -⟩ | ⟨otherFault, otherSomething, otherRefused⟩
    · cases faults.symm.trans nothing
    · obtain rfl := Option.some_inj.mp (faults.symm.trans otherSomething)
      rw [first.operator_resolve] at refused
      rw [second.operator_resolve] at otherRefused
      exact Or.inr ⟨fault, refused, otherRefused⟩

/-- The nodes are found valid in one way only. -/
theorem valid_eq (lowerCasing : IsLowerCasing lower) {valid otherValid : Validated}
    (accepted : first.resolve.validate first.input target = .ok valid)
    (otherAccepted : second.resolve.validate second.input other = .ok otherValid) :
    otherValid = valid := by
  obtain ⟨meets, extents⟩ := ResolvedPool.validate_eq_ok_iff_meets.mp accepted
  obtain ⟨otherMeets, otherExtents⟩ := ResolvedPool.validate_eq_ok_iff_meets.mp otherAccepted
  have modes : otherValid.padType = valid.padType :=
    Option.some_inj.mp
      (otherMeets.mode.symm.trans ((alike.ofText?_eq lowerCasing).trans meets.mode))
  have sizes : otherValid.extents = valid.extents := by
    rw [otherExtents, extents, alike.spatialExtents]
  cases valid
  cases otherValid
  cases modes
  cases sizes
  rfl

/-- Nodes found valid alike come to the same padding and the same spatial extents, if they have the same
pad amounts or their mode does not take these. -/
theorem explained_eq {valid : Validated}
    (accepted : first.resolve.validate first.input target = .ok valid)
    (otherAccepted : second.resolve.validate second.input other = .ok valid)
    (unread : valid.padType ≠ .custom ∨
      second.resolve.parameters.pad = first.resolve.parameters.pad) :
    (second.explained valid).padAmounts = (first.explained valid).padAmounts ∧
      (second.explained valid).outputType.shape.drop 2 =
        (first.explained valid).outputType.shape.drop 2 := by
  have kernelSizes : second.resolve.parameters.kernelSizes = first.resolve.parameters.kernelSizes :=
    alike.kernelSizes
  have computed {Result : Type} (compute : Axis → Result)
      (listless : valid.padType ≠ .custom → ∀ axis listed,
        compute { axis with listed := listed } = compute axis) :
      (second.checkedAxes valid).map compute = (first.checkedAxes valid).map compute := by
    unfold Node.checkedAxes
    rw [kernelSizes, alike.strides]
    rcases unread with notCustom | samePad
    · exact map_axes_of_listless (listless notCustom) _ _ _ _ _
    · rw [samePad]
  have padding : valid.padType ≠ .custom → ∀ (axis : Axis) listed,
      { axis with listed := listed }.padding valid.padType = axis.padding valid.padType := by
    intro notCustom axis listed
    cases mode : valid.padType with
    | custom => exact absurd mode notCustom
    | _ => rfl
  rw [padAmounts_explained, padAmounts_explained, drop_outputType accepted,
    drop_outputType otherAccepted, alike.ceilMode]
  refine ⟨computed _ padding, congrArg (List.map Dim.extent) (computed _ ?_)⟩
  intro notCustom axis listed
  rw [padding notCustom]
  rfl

end Node.Alike

/-- What the answer of a node may depend on. Take nodes with the same spatial part, and targets that are
both the earliest one or both another. If they also have the same pad amounts, both are accepted, or both
are refused by the same check, with a fault worded for the node at hand. Where both are accepted, each
output keeps the element type and the leading dims of its own node, and if the mode does not take the
listed amounts or these are the same, mode, padding and spatial extents are equal. -/
theorem answers_depend_on_spatial_part (lower : String → String) (lowerCasing : IsLowerCasing lower)
    (first second : Node) (alike : first.Alike lower second)
    (configuration otherConfiguration : Configuration) (options otherOptions : Options)
    (targets : otherOptions.targetUnder otherConfiguration = "opset15" ↔
      options.targetUnder configuration = "opset15") :
    (first.SamePad second →
      (∀ explanation, (first.explain configuration options).result = .ok explanation →
        ∃ other, (second.explain otherConfiguration otherOptions).result = .ok other) ∧
      ∀ failure, (first.explain configuration options).result = .error failure →
        ∃ fault, failure = .parameter ⟨first.operator, fault⟩ ∧
          (second.explain otherConfiguration otherOptions).result = .error (.parameter
            ⟨second.operator,
              fault.restated second.input.shape second.attributes.padType⟩)) ∧
    ∀ explanation other, (first.explain configuration options).result = .ok explanation →
      (second.explain otherConfiguration otherOptions).result = .ok other →
      (explanation.outputType.elementType = first.input.elementType ∧
        explanation.outputType.shape.take 2 = first.input.shape.take 2) ∧
      (other.outputType.elementType = second.input.elementType ∧
        other.outputType.shape.take 2 = second.input.shape.take 2) ∧
      other.padType = explanation.padType ∧
      (lower first.attributes.padType ≠ "custom" ∨
          second.resolve.parameters.pad = first.resolve.parameters.pad →
        other.padAmounts = explanation.padAmounts ∧
          other.outputType.shape.drop 2 = explanation.outputType.shape.drop 2) := by
  constructor
  · intro same
    rcases alike.validate_cases lowerCasing same targets with
      ⟨valid, accepted, otherAccepted⟩ | ⟨fault, refused, otherRefused⟩
    · refine ⟨fun explanation _ => ⟨_, Node.explain_eq_ok_iff.mpr
        (Node.explanation_eq_ok_iff.mpr ⟨valid, otherAccepted, rfl⟩)⟩, fun failure failed => ?_⟩
      obtain ⟨error, -, refused⟩ := Node.explain_eq_error_iff.mp failed
      cases accepted.symm.trans refused
    · have failed := Node.explain_eq_error refused
      refine ⟨fun explanation succeeded => ?_, fun failure same => ?_⟩
      · cases failed.symm.trans succeeded
      · exact ⟨fault, (Except.error.inj (failed.symm.trans same)).symm,
          Node.explain_eq_error otherRefused⟩
  · intro explanation other succeeded otherSucceeded
    obtain ⟨valid, accepted, rfl⟩ :=
      Node.explanation_eq_ok_iff.mp (Node.explain_eq_ok_iff.mp succeeded)
    obtain ⟨otherValid, otherAccepted, rfl⟩ :=
      Node.explanation_eq_ok_iff.mp (Node.explain_eq_ok_iff.mp otherSucceeded)
    obtain rfl := alike.valid_eq lowerCasing accepted otherAccepted
    refine ⟨⟨rfl, Node.take_outputType accepted⟩, ⟨rfl, Node.take_outputType otherAccepted⟩, rfl,
      fun unread => alike.explained_eq accepted otherAccepted (unread.imp_left ?_)⟩
    intro notCustom custom
    have named : lower first.attributes.padType = otherValid.padType.name :=
      ((validate_eq_ok_iff lowerCasing _ _ _ otherValid).mp accepted).2.1
    rw [custom] at named
    exact notCustom named

/-- A symbolic batch, and the average over half-precision numbers with padded positions left out. -/
def symbolicNode : Node :=
  Node.create 1 .avgPool ⟨"fp16", [.symbol "N", .extent 3, .extent 10]⟩
    { Attributes.required [4] "Same_Lower" with
      strides := some [3]
      pad := some [7, 7]
      excludePadding := some true }

/-- Another operator with the same spatial part, amounts that may differ, and something cached. -/
def concreteNode (pad : Option (List Binary64)) : Node :=
  (Node.create 2 .l2Pool ⟨"fp32", [.extent 1, .symbol "C", .extent 10]⟩
    { Attributes.required [4] "SAME_LOWER" with
      strides := some [3]
      pad
      ceilMode := some false }).store "opset18" ⟨"fp32", []⟩

theorem symbolicNode_alike (pad : Option (List Binary64)) :
    symbolicNode.Alike String.toLower (concreteNode pad) where
  rank := rfl
  element := Or.inl rfl
  otherElement := Or.inr rfl
  leading := by
    intro index inFront dim found
    interval_cases index
    · obtain rfl := Option.some_inj.mp found
      exact ⟨by decide, by decide⟩
    · obtain rfl := Option.some_inj.mp found
      exact ⟨3, Binary64.holds_ofNat (by norm_num)⟩
  otherLeading := by
    intro index inFront dim found
    interval_cases index
    · obtain rfl := Option.some_inj.mp found
      exact ⟨1, Binary64.holds_one⟩
    · obtain rfl := Option.some_inj.mp found
      exact ⟨by decide, by decide⟩
  spatial := rfl
  kernelSizes := rfl
  strides := rfl
  ceilMode := rfl
  mode := by
    have lowered : "SAME_LOWER".toLower = "same_lower" := by decide +kernel
    have otherLowered : "Same_Lower".toLower = "same_lower" := by decide +kernel
    exact lowered.trans otherLowered.symm
  operators := Or.inl (by decide)

theorem concrete_answer_is_symbolic_answer :
    IsLowerCasing String.toLower ∧
      (∀ pad, symbolicNode.Alike String.toLower (concreteNode pad)) ∧
      symbolicNode.SamePad (concreteNode (some [7, 7])) ∧
      (symbolicNode.explain ⟨.opset18, false⟩ ⟨none, none⟩).result =
        .ok (symbolicNode.explained ⟨.sameLower, [10]⟩) ∧
      (∃ other, ((concreteNode (some [7, 7])).explain ⟨.opset18, false⟩
        ⟨some "opset16", some true⟩).result = .ok other) ∧
      ((concreteNode none).explain ⟨.opset18, false⟩ ⟨some "opset16", some true⟩).result =
        .ok ((concreteNode none).explained ⟨.sameLower, [10]⟩) ∧
      ((concreteNode none).explained ⟨.sameLower, [10]⟩).padAmounts =
        (symbolicNode.explained ⟨.sameLower, [10]⟩).padAmounts := by
  have samePad : symbolicNode.SamePad (concreteNode (some [7, 7])) := ⟨rfl, rfl⟩
  have accepted : (symbolicNode.explain ⟨.opset18, false⟩ ⟨none, none⟩).result =
      .ok (symbolicNode.explained ⟨.sameLower, [10]⟩) := by decide +kernel
  have otherAccepted :
      ((concreteNode none).explain ⟨.opset18, false⟩ ⟨some "opset16", some true⟩).result =
        .ok ((concreteNode none).explained ⟨.sameLower, [10]⟩) := by decide +kernel
  have targets : Options.targetUnder ⟨some "opset16", some true⟩ ⟨.opset18, false⟩ = "opset15" ↔
      Options.targetUnder ⟨none, none⟩ ⟨.opset18, false⟩ = "opset15" := by decide
  have notCustom : symbolicNode.attributes.padType.toLower ≠ "custom" := by decide +kernel
  obtain ⟨decided, -⟩ := answers_depend_on_spatial_part String.toLower isLowerCasing_toLower _ _
    (symbolicNode_alike (some [7, 7])) _ _ _ _ targets
  obtain ⟨-, equal⟩ := answers_depend_on_spatial_part String.toLower isLowerCasing_toLower _ _
    (symbolicNode_alike none) _ _ _ _ targets
  obtain ⟨-, -, -, unread⟩ := equal _ _ accepted otherAccepted
  exact ⟨isLowerCasing_toLower, symbolicNode_alike, samePad, accepted,
    (decided samePad).1 _ accepted, otherAccepted, (unread (Or.inl notCustom)).1⟩

end Pooling
