/-
This file brings the growth of one axis to calls and to nodes. A node that is accepted is accepted with a
longer input too, since nothing that is checked bounds an extent from above, and it is then computed from
the same kernels, strides and listed amounts. So no axis of its output gets shorter.
-/

import Pooling.Catalog
import Pooling.Proofs.Conditions
import Pooling.Proofs.Growth

namespace Pooling

open Binary64

/-! ### Longer shapes -/

/-- The shape has this whole number as the extent of a spatial axis. -/
def Shape.HasExtent (shape : Shape) (axis : ℕ) (extent : ℤ) : Prop :=
  ∃ size, shape[axis + 2]? = some (.extent size) ∧ size.Holds extent

theorem Shape.HasExtent.unique {shape : Shape} {axis : ℕ} {D D' : ℤ} (first : shape.HasExtent axis D)
    (second : shape.HasExtent axis D') : D = D' :=
  Shape.extent_unique first second

/-- The other shape has the same batch and channel, and no spatial axis of it is shorter. -/
structure Shape.Grows (shape longer : Shape) : Prop where
  length : longer.length = shape.length
  leading : longer.take 2 = shape.take 2
  spatial : ∀ axis D, shape.HasExtent axis D → ∃ D', longer.HasExtent axis D' ∧ D ≤ D'

/-- The node with another shape of its input. -/
def Node.withShape (node : Node) (shape : Shape) : Node :=
  { node with input := { node.input with shape } }

/-- No listed pad amount is above the bound. -/
def Node.PadAtMost (node : Node) (bound : ℤ) : Prop :=
  ∀ index n, HoldsAt node.resolve.parameters.pad index n → n ≤ bound

namespace Shape.Grows

variable {node : Node} {shape : Shape} (grows : node.input.shape.Grows shape)

include grows

theorem resolve_eq : (node.withShape shape).resolve = node.resolve := by
  show ResolvedPool.mk _ (node.attributes.resolve shape.length) = ⟨_, _⟩
  rw [grows.length]
  rfl

/-- The dims of a longer shape are allowed where those of the shape are. -/
theorem dims_allowed
    (allowed : ∀ index (dim : Dim), node.input.shape[index]? = some dim → dim.AllowedAt index)
    (index : ℕ) (dim : Dim) (found : shape[index]? = some dim) : dim.AllowedAt index := by
  rcases lt_or_ge index 2 with inFront | behind
  · refine allowed index dim ?_
    rw [← List.getElem?_take_of_lt inFront, ← grows.leading, List.getElem?_take_of_lt inFront, found]
  · obtain ⟨axis, rfl⟩ := Nat.exists_eq_add_of_le' behind
    have inside := (List.getElem?_eq_some_iff.mp found).1
    rw [grows.length] at inside
    have shorterAt := List.getElem?_eq_getElem inside
    obtain ⟨size, D, isExtent, held, nonnegative⟩ :=
      (Dim.allowedAt_spatial_iff behind).mp (allowed _ _ shorterAt)
    obtain ⟨D', ⟨longer, longerAt, longerHeld⟩, more⟩ :=
      grows.spatial axis D ⟨size, isExtent ▸ shorterAt, held⟩
    have isLonger : dim = .extent longer := Option.some_inj.mp (found.symm.trans longerAt)
    exact (Dim.allowedAt_spatial_iff behind).mpr
      ⟨longer, D', isLonger, longerHeld, nonnegative.trans more⟩

/-- A node is accepted with a longer input under the same mode. -/
theorem meets {target : String} {padType : PadType}
    (meets : node.resolve.Meets node.input target padType) :
    (node.withShape shape).resolve.Meets (node.withShape shape).input target padType := by
  have rank : (node.withShape shape).input.rank = node.input.rank := grows.length
  rw [grows.resolve_eq]
  exact ⟨⟨meets.elementType, rank ▸ meets.rank, grows.dims_allowed meets.dims, rank ▸ meets.lists,
    rank ▸ meets.flat, meets.mode, rank ▸ meets.ceilFlat, meets.ceilSame⟩, rank ▸ meets.symmetric,
    meets.target⟩

/-- On an axis of the longer input the extent is no smaller, and the other numbers are the same. -/
theorem numbers {valid longerValid : Validated} {index : ℕ} {axis longerAxis : Axis}
    {D K S b a D' K' S' b' a' : ℤ} (holds : AcceptedAxis node valid index axis D K S b a)
    (longerHolds :
      AcceptedAxis (node.withShape shape) longerValid index longerAxis D' K' S' b' a') :
    D ≤ D' ∧ K' = K ∧ S' = S ∧ b' = b ∧ a' = a := by
  obtain ⟨extentAt, kernelAt, strideAt⟩ := holds.hasAxis
  obtain ⟨longerAt, sameKernelAt, sameStrideAt⟩ := longerHolds.hasAxis
  have sameBeforeAt := longerHolds.beforeAt
  have sameAfterAt := longerHolds.afterAt
  have rank : (node.withShape shape).input.rank = node.input.rank := grows.length
  rw [rank] at sameStrideAt
  rw [grows.resolve_eq] at sameBeforeAt sameAfterAt
  obtain ⟨longer, has, more⟩ := grows.spatial index D extentAt
  obtain rfl : longer = D' := has.unique longerAt
  exact ⟨more, sameKernelAt.unique kernelAt, sameStrideAt.unique strideAt,
    sameBeforeAt.unique holds.beforeAt, sameAfterAt.unique holds.afterAt⟩

end Shape.Grows

/-! ### Outputs of longer inputs -/

/-- The output of an accepted node at an axis. -/
theorem AcceptedAxis.hasOutput {node : Node} {valid : Validated} {index : ℕ} {axis : Axis}
    {D K S b a : ℤ} (accepted : AcceptedAxis node valid index axis D K S b a) (bound : ℤ)
    (kernelLe : K ≤ bound) (listedLe : valid.padType = .custom → b + a ≤ bound)
    (bounded : D + K + S + bound ≤ 2 ^ 53) :
    (node.explained valid).HasOutput index
      (exactOutput valid.padType K S (b, a) node.resolve.parameters.ceilMode D) := by
  obtain ⟨first, -, second, -, given, firstHeld, secondHeld⟩ := accepted.exists_listed
  exact ⟨_, accepted.outputAt, accepted.holds.output_holds valid.padType (b, a) given firstHeld
    secondHeld accepted.before_nonneg accepted.after_nonneg bound kernelLe listedLe bounded _⟩

/-- The output grows with the input. For every mode and either way of rounding, the single axis of a call
comes out no shorter and at most one longer if it is one position longer, and exactly one longer under the
same padding if it is one stride longer. So an accepted node is accepted with every longer input, and no
axis of its output gets shorter. -/
theorem output_grows_with_input :
    (∀ (padType : PadType) (ceilMode : Bool)
      (extent next further kernel stride before after : Binary64) (D K S b a : ℤ),
      extent.Holds D → next.Holds (D + 1) → further.Holds (D + S) → kernel.Holds K →
      stride.Holds S → before.Holds b → after.Holds a → 0 ≤ D → 1 ≤ K → 1 ≤ S → 0 ≤ b → 0 ≤ a →
      D ≤ 2 ^ 50 → K ≤ 2 ^ 50 → S ≤ 2 ^ 50 → b ≤ 2 ^ 50 → a ≤ 2 ^ 50 →
      ∃ (size nextSize furtherSize : Binary64) (out nextOut : ℤ),
        outputExtents padType [extent] [kernel] [stride] [before, after] ceilMode = [size] ∧
        outputExtents padType [next] [kernel] [stride] [before, after] ceilMode = [nextSize] ∧
        outputExtents padType [further] [kernel] [stride] [before, after] ceilMode =
          [furtherSize] ∧
        size.Holds out ∧ nextSize.Holds nextOut ∧ furtherSize.Holds (out + 1) ∧
        out ≤ nextOut ∧ nextOut ≤ out + 1 ∧
        padAmounts padType [further] [kernel] [stride] [before, after] =
          padAmounts padType [extent] [kernel] [stride] [before, after]) ∧
    ∀ (node : Node) (shape : Shape) (configuration : Configuration) (options : Options)
      (explanation : Explanation),
      (node.explain configuration options).result = .ok explanation →
      node.input.shape.Grows shape → (node.withShape shape).SpatialAtMost (2 ^ 50) →
      (explanation.padType = .custom → node.PadAtMost (2 ^ 50)) →
      ∃ other, ((node.withShape shape).explain configuration options).result = .ok other ∧
        ∀ axis < node.input.rank - 2, ∃ out longer : ℤ, explanation.HasOutput axis out ∧
          other.HasOutput axis longer ∧ out ≤ longer := by
  constructor
  · intro padType ceilMode extent next further kernel stride before after D K S b a extentHeld
      nextHeld furtherHeld kernelHeld strideHeld beforeHeld afterHeld extentNonneg kernelPos
      stridePos beforeNonneg afterNonneg extentSmall kernelSmall strideSmall beforeSmall afterSmall
    have held {size : Binary64} {n : ℤ} (sizeHeld : size.Holds n) (nonnegative : 0 ≤ n) :
        Axis.Holds ⟨size, kernel, stride, ⟨some before, some after⟩⟩ n K S :=
      ⟨sizeHeld, kernelHeld, strideHeld, ⟨nonnegative, kernelPos, stridePos⟩⟩
    have output {size : Binary64} {n : ℤ} (sizeHeld : size.Holds n) (nonnegative : 0 ≤ n)
        (small : n ≤ 2 ^ 51) :=
      (held sizeHeld nonnegative).output_holds padType (b, a) rfl beforeHeld afterHeld beforeNonneg
        afterNonneg (2 ^ 51) (by linarith) (fun _ => by dsimp only; linarith) (by linarith) ceilMode
    refine ⟨_, _, _, _, _, rfl, rfl, rfl, output extentHeld extentNonneg (by linarith),
      output nextHeld (by linarith) (by linarith), ?_, ?_, ?_, ?_⟩
    · rw [← exactOutput_add_stride kernelPos stridePos padType (b, a) ceilMode extentNonneg]
      exact output furtherHeld (by linarith) (by linarith)
    · exact exactOutput_mono kernelPos stridePos padType (b, a) ceilMode extentNonneg (by linarith)
    · exact exactOutput_next_le kernelPos stridePos padType (b, a) ceilMode extentNonneg
    · exact congrArg (fun padding => [padding])
        ((held extentHeld extentNonneg).padding_add_stride (held furtherHeld (by linarith)) rfl
          (by linarith) padType)
  · intro node shape configuration options explanation accepted grows small padSmall
    obtain ⟨padType, meets, rfl⟩ := Node.explain_eq_ok_iff_meets.mp accepted
    have longerMeets := grows.meets meets
    refine ⟨_, Node.explain_eq_ok_iff_meets.mpr ⟨padType, longerMeets, rfl⟩, fun index inside => ?_⟩
    obtain ⟨axis, D, K, S, b, a, holds⟩ := exists_acceptedAxis meets.validate inside
    have longerInside : index < (node.withShape shape).input.rank - 2 := by
      rwa [show (node.withShape shape).input.rank = node.input.rank from grows.length]
    obtain ⟨longerAxis, D', K', S', b', a', longerHolds⟩ :=
      exists_acceptedAxis longerMeets.validate longerInside
    obtain ⟨extentSmall, kernelSmall, strideSmall⟩ := small index D' K' S' longerHolds.hasAxis
    obtain ⟨more, rfl, rfl, rfl, rfl⟩ := grows.numbers holds longerHolds
    obtain ⟨extentNonneg, kernelPos, stridePos⟩ := holds.holds.valid
    have listedLe : padType = .custom → b' + a' ≤ 2 ^ 51 := by
      intro custom
      have beforeSmall := padSmall custom _ _ holds.beforeAt
      have afterSmall := padSmall custom _ _ holds.afterAt
      linarith
    have output := holds.hasOutput (2 ^ 51) (by linarith) listedLe (by linarith)
    have longerOutput := longerHolds.hasOutput (2 ^ 51) (by linarith) listedLe (by linarith)
    rw [grows.resolve_eq] at longerOutput
    exact ⟨_, _, output, longerOutput,
      exactOutput_mono kernelPos stridePos padType (b', a') _ extentNonneg more⟩

/-- An axis of five positions with one unit of padding on either side. Rounding up, a window that would start
in the padding behind is dropped. -/
def droppedWindowNode : Node :=
  Node.create 1 .avgPool ⟨"fp32", [.symbol "N", .extent 3, .extent 5]⟩
    { Attributes.required [2] "custom" with
      strides := some [2]
      pad := some [1, 1]
      ceilMode := some true }

/-- On an axis of six positions that window starts in front of the padding. -/
def longerShape : Shape :=
  [.symbol "N", .extent 3, .extent 6]

theorem droppedWindowNode_grows : droppedWindowNode.input.shape.Grows longerShape where
  length := rfl
  leading := rfl
  spatial := by
    rintro axis D ⟨size, found, held⟩
    have inside : axis + 2 < 3 := (List.getElem?_eq_some_iff.mp found).1
    obtain rfl : axis = 0 := by omega
    obtain rfl : (5 : Binary64) = size := by simpa [droppedWindowNode, Node.create] using found
    obtain rfl := held.unique (holds_ofNat (n := 5) (by norm_num))
    exact ⟨6, ⟨6, rfl, holds_ofNat (n := 6) (by norm_num)⟩, by norm_num⟩

theorem longer_input_keeps_the_window :
    (droppedWindowNode.explain ⟨.opset18, false⟩ ⟨none, none⟩).result =
        .ok (droppedWindowNode.explained ⟨.custom, [5]⟩) ∧
      droppedWindowNode.input.shape.Grows longerShape ∧
      (droppedWindowNode.withShape longerShape).SpatialAtMost (2 ^ 50) ∧
      droppedWindowNode.PadAtMost (2 ^ 50) ∧
      (∃ other, ((droppedWindowNode.withShape longerShape).explain ⟨.opset18, false⟩
          ⟨none, none⟩).result = .ok other ∧
        ∃ out longer : ℤ, (droppedWindowNode.explained ⟨.custom, [5]⟩).HasOutput 0 out ∧
          other.HasOutput 0 longer ∧ out ≤ longer) ∧
      (5 : Binary64).Holds 5 ∧ (6 : Binary64).Holds 6 ∧ (7 : Binary64).Holds 7 ∧
      padAmounts .same [7] [2] [2] [0, 0] = padAmounts .same [5] [2] [2] [0, 0] := by
  have accepted : (droppedWindowNode.explain ⟨.opset18, false⟩ ⟨none, none⟩).result =
      .ok (droppedWindowNode.explained ⟨.custom, [5]⟩) := by decide +kernel
  have fiveHeld : (5 : Binary64).Holds 5 := holds_ofNat (n := 5) (by norm_num)
  have sixHeld : (6 : Binary64).Holds 6 := holds_ofNat (n := 6) (by norm_num)
  have sevenHeld : (7 : Binary64).Holds 7 := holds_ofNat (n := 7) (by norm_num)
  have small : (droppedWindowNode.withShape longerShape).SpatialAtMost (2 ^ 50) := by
    intro axis D K S has
    have inside : axis < 1 := has.inside
    obtain rfl : axis = 0 := by omega
    obtain ⟨rfl, rfl, rfl⟩ := has.unique
      ⟨⟨6, rfl, sixHeld⟩, ⟨2, rfl, holds_two⟩, ⟨2, rfl, holds_two⟩⟩
    norm_num
  have padSmall : droppedWindowNode.PadAtMost (2 ^ 50) := by
    rintro index n ⟨amount, found, held⟩
    have member : amount ∈ ([1, 1] : List Binary64) := List.mem_of_getElem? found
    obtain rfl : amount = 1 := by simpa using member
    obtain rfl := held.unique holds_one
    norm_num
  obtain ⟨steps, nodes⟩ := output_grows_with_input
  obtain ⟨other, otherAccepted, outputs⟩ :=
    nodes _ _ _ _ _ accepted droppedWindowNode_grows small fun _ => padSmall
  obtain ⟨-, -, -, -, -, -, -, -, -, -, -, -, -, unchanged⟩ := steps .same true 5 6 7 2 2 0 0 5 2 2 0 0
    fiveHeld sixHeld sevenHeld holds_two holds_two holds_zero holds_zero (by norm_num) (by norm_num)
    (by norm_num) (by norm_num) (by norm_num) (by norm_num) (by norm_num) (by norm_num)
    (by norm_num) (by norm_num)
  exact ⟨accepted, droppedWindowNode_grows, small, padSmall,
    ⟨other, otherAccepted, outputs 0 (by decide)⟩, fiveHeld, sixHeld, sevenHeld, unchanged⟩

end Pooling
