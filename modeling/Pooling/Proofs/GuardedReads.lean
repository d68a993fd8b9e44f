/-
This file settles that an output is computed from what is there. The computation goes through the extents
and reads the other lists by position without looking at their lengths, and it divides by whatever the
strides are, so all of that is left to the checks. Here it is repeated with a guard at every read and at
every division: a guard stops it at a missing entry, or before it divides by anything but a whole number
from one on. No guard stops it exactly if every axis is covered, and then the answer is the one without
guards. The checks leave lists of just the lengths that are read and no stride below one, so every axis of
an accepted node is covered, and a node that they refuse is not computed with.
-/

import Pooling.Proofs.ExplicitPadding

namespace Pooling

open Binary64

/-! ### Guards -/

/-- Why a guard stops a computation. -/
inductive Mishap where
  | missing
  | divisor (number : Binary64)
  deriving DecidableEq

/-- Read an entry that has to be there. -/
def present {Entry : Type} : Option Entry → Except Mishap Entry
  | some entry => .ok entry
  | none => .error .missing

/-- A number that may be divided by is whole and at least one. -/
def isDivisor (number : Binary64) : Bool :=
  number.isInteger && Binary64.atMost 1 number

/-- Divide by a number that may be divided by. -/
def guardedQuotient (dividend divisor : Binary64) : Except Mishap Binary64 :=
  if isDivisor divisor then .ok (dividend / divisor) else .error (.divisor divisor)

theorem isDivisor_iff {number : Binary64} :
    isDivisor number = true ↔ ∃ n : ℤ, 1 ≤ n ∧ number.Holds n := by
  rw [isDivisor, Bool.and_eq_true, isInteger_iff]
  constructor
  · rintro ⟨⟨n, held⟩, enough⟩
    exact ⟨n, by exact_mod_cast (atMost_iff holds_one held).mp enough, held⟩
  · rintro ⟨n, enough, held⟩
    exact ⟨⟨n, held⟩, (atMost_iff holds_one held).mpr (by exact_mod_cast enough)⟩

theorem isDivisor_two : isDivisor 2 = true :=
  isDivisor_iff.mpr ⟨2, by norm_num, holds_two⟩

section Success

variable {Entry Result Answer : Type}

/-- Two steps come through exactly if each does. -/
theorem bind_eq_ok_iff {first : Except Mishap Result} {next : Result → Except Mishap Answer}
    {answer : Answer} :
    first >>= next = .ok answer ↔ ∃ result, first = .ok result ∧ next result = .ok answer := by
  cases first <;> simp [bind, Except.bind]

theorem pure_eq_ok_iff {result answer : Answer} :
    (pure result : Except Mishap Answer) = .ok answer ↔ result = answer := by
  simp [pure, Except.pure]

theorem present_eq_ok_iff {found : Option Entry} {entry : Entry} :
    present found = .ok entry ↔ found = some entry := by
  cases found <;> simp [present]

/-- A step after a guarded division comes through exactly if the number may be divided by and the step
does. -/
theorem guardedQuotient_bind_eq_ok_iff {dividend divisor : Binary64}
    {next : Binary64 → Except Mishap Answer} {answer : Answer} :
    guardedQuotient dividend divisor >>= next = .ok answer ↔
      isDivisor divisor = true ∧ next (dividend / divisor) = .ok answer := by
  unfold guardedQuotient
  split <;> simp [bind, Except.bind, *]

/-- Steps for the entries of a list come through exactly if each does. -/
theorem mapM_mapIdx_eq_ok_iff {step : ℕ → Entry → Except Mishap Answer} {covered : ℕ → Prop}
    {plain : ℕ → Entry → Answer} {entries : List Entry} {answers : List Answer}
    (each : ∀ index entry, entries[index]? = some entry → ∀ answer,
      step index entry = .ok answer ↔ covered index ∧ plain index entry = answer) :
    (entries.mapIdx step).mapM id = .ok answers ↔
      (∀ index < entries.length, covered index) ∧ entries.mapIdx plain = answers := by
  induction entries generalizing step covered plain answers with
  | nil => simp [pure_eq_ok_iff]
  | cons entry rest inductionHypothesis =>
    have now := each 0 entry rfl
    -- the rest is numbered from zero again
    have later (others : List Answer) := @inductionHypothesis _ _ _ others
      fun index other found => each (index + 1) other found
    rw [List.mapIdx_cons, List.mapIdx_cons, List.mapM_cons, List.length_cons, Nat.forall_lt_succ_left]
    simp only [id, bind_eq_ok_iff, pure_eq_ok_iff, now, later]
    constructor
    · rintro ⟨_, ⟨coveredNow, rfl⟩, _, ⟨coveredLater, rfl⟩, rfl⟩
      exact ⟨⟨coveredNow, coveredLater⟩, rfl⟩
    · rintro ⟨⟨coveredNow, coveredLater⟩, rfl⟩
      exact ⟨_, ⟨coveredNow, rfl⟩, _, ⟨coveredLater, rfl⟩, rfl⟩

end Success

/-! ### The computation with guards -/

/-- The total of a `same` mode. -/
def guardedTotal (extent kernel stride : Binary64) : Except Mishap Binary64 := do
  let quotient ← guardedQuotient extent stride
  let windows := quotient.ceil
  return ((windows - 1) * stride + kernel - extent).maximum 0

/-- The number of windows. -/
def guardedCount (extent kernel stride before after : Binary64) (ceilMode : Bool) :
    Except Mishap Binary64 := do
  let total := before + after
  let span := extent + total - kernel
  let quotient ← guardedQuotient span stride
  if ceilMode then
    let windows := quotient.ceil + 1
    let startsBehind := Binary64.atMost (extent + before) ((windows - 1) * stride)
    return if startsBehind && Binary64.less 0 total then windows - 1 else windows
  else
    return quotient.floor + 1

/-- The total for the axis at an index. -/
def guardedSamePadding (kernelSizes strides : List Binary64) (index : ℕ) (extent : Binary64) :
    Except Mishap Binary64 := do
  let kernel ← present kernelSizes[index]?
  let stride ← present strides[index]?
  guardedTotal extent kernel stride

/-- The padding of the axis at an index. The mode `valid` reads nothing, `custom` reads the amounts, and
the others read the kernel and the stride. -/
def guardedPadding (padType : PadType) (kernelSizes strides pad : List Binary64) (index : ℕ)
    (extent : Binary64) : Except Mishap Padding :=
  match padType with
  | .valid => return ⟨some 0, some 0⟩
  | .custom => do
    let before ← present pad[2 * index]?
    let after ← present pad[2 * index + 1]?
    return ⟨some before, some after⟩
  | .same => do
    let total ← guardedSamePadding kernelSizes strides index extent
    let half ← guardedQuotient total 2
    return ⟨some half.floor, some (total - half.floor)⟩
  | .sameLower => do
    let total ← guardedSamePadding kernelSizes strides index extent
    let half ← guardedQuotient total 2
    return ⟨some half.ceil, some (total - half.ceil)⟩

/-- The extent that the axis at an index comes out with. -/
def guardedWindows (kernelSizes strides : List Binary64) (amounts : List Padding) (ceilMode : Bool)
    (index : ℕ) (extent : Binary64) : Except Mishap Binary64 := do
  let kernel ← present kernelSizes[index]?
  let stride ← present strides[index]?
  let padding ← present amounts[index]?
  let before ← present padding.before
  let after ← present padding.after
  guardedCount extent kernel stride before after ceilMode

/-- The list of amounts for all axes. -/
def guardedPadAmounts (padType : PadType) (extents kernelSizes strides pad : List Binary64) :
    Except Mishap (List Padding) :=
  (extents.mapIdx (guardedPadding padType kernelSizes strides pad)).mapM id

/-- The extents of the output. The amounts are computed first and then read by position like the rest. -/
def guardedOutputExtents (padType : PadType) (extents kernelSizes strides pad : List Binary64)
    (ceilMode : Bool) : Except Mishap (List Binary64) := do
  let amounts ← guardedPadAmounts padType extents kernelSizes strides pad
  (extents.mapIdx (guardedWindows kernelSizes strides amounts ceilMode)).mapM id

/-! ### What the guards ask for -/

section Count

variable {extent kernel stride : Binary64}

theorem guardedTotal_eq_ok_iff {total : Binary64} :
    guardedTotal extent kernel stride = .ok total ↔
      isDivisor stride = true ∧ samePaddingTotal extent kernel stride = total := by
  rw [guardedTotal, guardedQuotient_bind_eq_ok_iff, pure_eq_ok_iff]
  rfl

theorem guardedCount_eq_ok_iff {before after count : Binary64} {ceilMode : Bool} :
    guardedCount extent kernel stride before after ceilMode = .ok count ↔
      isDivisor stride = true ∧ windowCount extent kernel stride before after ceilMode = count := by
  rw [guardedCount, guardedQuotient_bind_eq_ok_iff]
  cases ceilMode with
  | false => rw [if_neg Bool.false_ne_true, pure_eq_ok_iff]; rfl
  | true => rw [if_pos rfl, pure_eq_ok_iff]; rfl

end Count

section Lists

variable {padType : PadType} {extents kernelSizes strides pad : List Binary64}

/-- The axis that the computation without guards has at an index. -/
def readAxis (kernelSizes strides pad : List Binary64) (index : ℕ) (extent : Binary64) : Axis :=
  ⟨extent, operand kernelSizes[index]?, operand strides[index]?,
    ⟨pad[2 * index]?, pad[2 * index + 1]?⟩⟩

theorem map_axes {Answer : Type} (compute : Axis → Answer) :
    (axes extents kernelSizes strides pad).map compute =
      extents.mapIdx fun index extent => compute (readAxis kernelSizes strides pad index extent) := by
  refine List.ext_getElem? fun index => ?_
  rw [List.getElem?_map, axes, List.getElem?_mapIdx, List.getElem?_mapIdx, Option.map_map]
  rfl

/-- The kernel and the stride at an index are there, and the stride may be divided by. -/
def WindowCovered (kernelSizes strides : List Binary64) (index : ℕ) : Prop :=
  (∃ kernel, kernelSizes[index]? = some kernel) ∧
    ∃ stride, strides[index]? = some stride ∧ isDivisor stride = true

/-- Both amounts of an axis are there. -/
def AmountsCovered (pad : List Binary64) (index : ℕ) : Prop :=
  (∃ before, pad[2 * index]? = some before) ∧ ∃ after, pad[2 * index + 1]? = some after

/-- What the padding of an axis is computed from under a mode is there. -/
def PaddingCovered (padType : PadType) (kernelSizes strides pad : List Binary64) (index : ℕ) : Prop :=
  match padType with
  | .valid => True
  | .custom => AmountsCovered pad index
  | .same | .sameLower => WindowCovered kernelSizes strides index

theorem guardedSamePadding_eq_ok_iff (pad : List Binary64) {index : ℕ} {extent total : Binary64} :
    guardedSamePadding kernelSizes strides index extent = .ok total ↔
      WindowCovered kernelSizes strides index ∧
        (readAxis kernelSizes strides pad index extent).samePadding = total := by
  simp only [guardedSamePadding, bind_eq_ok_iff, present_eq_ok_iff, guardedTotal_eq_ok_iff]
  constructor
  · rintro ⟨kernel, kernelAt, stride, strideAt, divisor, rfl⟩
    refine ⟨⟨⟨kernel, kernelAt⟩, stride, strideAt, divisor⟩, ?_⟩
    rw [readAxis, kernelAt, strideAt]
    rfl
  · rintro ⟨⟨⟨kernel, kernelAt⟩, stride, strideAt, divisor⟩, rfl⟩
    rw [readAxis, kernelAt, strideAt]
    exact ⟨kernel, rfl, stride, rfl, divisor, rfl⟩

/-- Halving a total asks for nothing more. -/
theorem guardedHalf_eq_ok_iff {index : ℕ} {extent : Binary64} {share : Binary64 → Binary64 → Padding}
    {padding : Padding} :
    (do
      let total ← guardedSamePadding kernelSizes strides index extent
      let half ← guardedQuotient total 2
      return share total half) = Except.ok padding ↔
      WindowCovered kernelSizes strides index ∧
        share (readAxis kernelSizes strides pad index extent).samePadding
          ((readAxis kernelSizes strides pad index extent).samePadding / 2) = padding := by
  rw [bind_eq_ok_iff]
  simp only [guardedQuotient_bind_eq_ok_iff, guardedSamePadding_eq_ok_iff pad, pure_eq_ok_iff]
  constructor
  · rintro ⟨total, ⟨covered, rfl⟩, -, shared⟩
    exact ⟨covered, shared⟩
  · rintro ⟨covered, shared⟩
    exact ⟨_, ⟨covered, rfl⟩, isDivisor_two, shared⟩

theorem guardedPadding_eq_ok_iff {index : ℕ} {extent : Binary64} {padding : Padding} :
    guardedPadding padType kernelSizes strides pad index extent = .ok padding ↔
      PaddingCovered padType kernelSizes strides pad index ∧
        (readAxis kernelSizes strides pad index extent).padding padType = padding := by
  cases padType with
  | valid =>
    rw [guardedPadding, pure_eq_ok_iff]
    exact (and_iff_right trivial).symm
  | custom =>
    simp only [guardedPadding, bind_eq_ok_iff, present_eq_ok_iff, pure_eq_ok_iff]
    constructor
    · rintro ⟨before, beforeAt, after, afterAt, rfl⟩
      refine ⟨⟨⟨before, beforeAt⟩, after, afterAt⟩, ?_⟩
      rw [readAxis, beforeAt, afterAt]
      rfl
    · rintro ⟨⟨⟨before, beforeAt⟩, after, afterAt⟩, rfl⟩
      rw [readAxis, beforeAt, afterAt]
      exact ⟨before, rfl, after, rfl, rfl⟩
  | same => exact guardedHalf_eq_ok_iff
  | sameLower => exact guardedHalf_eq_ok_iff

theorem guardedWindows_eq_ok_iff {amounts : List Padding} {ceilMode : Bool} {index : ℕ}
    {extent windows : Binary64} {padding : Padding} (paddingAt : amounts[index]? = some padding) :
    guardedWindows kernelSizes strides amounts ceilMode index extent = .ok windows ↔
      (WindowCovered kernelSizes strides index ∧ padding.IsFull) ∧
        (readAxis kernelSizes strides pad index extent).windows padding ceilMode = windows := by
  simp only [guardedWindows, bind_eq_ok_iff, present_eq_ok_iff, guardedCount_eq_ok_iff, paddingAt,
    Option.some_inj]
  constructor
  · rintro ⟨kernel, kernelAt, stride, strideAt, _, rfl, before, beforeAt, after, afterAt, divisor, rfl⟩
    refine ⟨⟨⟨⟨kernel, kernelAt⟩, stride, strideAt, divisor⟩, before, after, ?_⟩, ?_⟩
    · rw [← beforeAt, ← afterAt]
    · rw [Axis.windows, readAxis, kernelAt, strideAt, beforeAt, afterAt]
      rfl
  · rintro ⟨⟨⟨⟨kernel, kernelAt⟩, stride, strideAt, divisor⟩, before, after, rfl⟩, rfl⟩
    rw [Axis.windows, readAxis, kernelAt, strideAt]
    exact ⟨kernel, rfl, stride, rfl, _, rfl, before, rfl, after, rfl, divisor, rfl⟩

/-- The amounts come through the guards exactly if what they are computed from is there, and are then
those without guards. -/
theorem guardedPadAmounts_eq_ok_iff {amounts : List Padding} :
    guardedPadAmounts padType extents kernelSizes strides pad = .ok amounts ↔
      (∀ index < extents.length, PaddingCovered padType kernelSizes strides pad index) ∧
        padAmounts padType extents kernelSizes strides pad = amounts := by
  rw [padAmounts, map_axes]
  exact mapM_mapIdx_eq_ok_iff fun _ _ _ _ => guardedPadding_eq_ok_iff

theorem isFull_of_covered {index : ℕ} (extent : Binary64)
    (covered : PaddingCovered padType kernelSizes strides pad index) :
    ((readAxis kernelSizes strides pad index extent).padding padType).IsFull := by
  refine Axis.isFull_padding ?_
  rintro rfl
  obtain ⟨⟨before, beforeAt⟩, after, afterAt⟩ := covered
  exact ⟨before, after, by rw [readAxis, beforeAt, afterAt]⟩

/-- The extents come through the guards exactly if every axis is covered, and are then those without guards.
-/
theorem guardedOutputExtents_eq_ok_iff {ceilMode : Bool} {answers : List Binary64} :
    guardedOutputExtents padType extents kernelSizes strides pad ceilMode = .ok answers ↔
      (∀ index < extents.length, PaddingCovered padType kernelSizes strides pad index ∧
        WindowCovered kernelSizes strides index) ∧
        outputExtents padType extents kernelSizes strides pad ceilMode = answers := by
  rw [guardedOutputExtents, bind_eq_ok_iff]
  simp only [guardedPadAmounts_eq_ok_iff, and_assoc, exists_and_left, exists_eq_left']
  rw [forall₂_and, and_assoc, outputExtents, map_axes]
  refine and_congr_right fun covered => mapM_mapIdx_eq_ok_iff fun index extent found windows => ?_
  have inside := (List.getElem?_eq_some_iff.mp found).1
  have paddingAt : (padAmounts padType extents kernelSizes strides pad)[index]? =
      some ((readAxis kernelSizes strides pad index extent).padding padType) := by
    rw [padAmounts, map_axes, List.getElem?_mapIdx, found, Option.map_some]
  rw [guardedWindows_eq_ok_iff paddingAt, and_iff_left (isFull_of_covered extent (covered index inside))]

example : guardedOutputExtents .valid [4] [2] [] [] false = .error .missing := rfl

example : guardedOutputExtents .valid [4] [2] [0] [] false = .error (.divisor 0) := by decide +kernel

end Lists

/-! ### Explanations with guards -/

/-- Explain the node with guards at everything that is computed after its check. -/
def Node.guardedExplanation (node : Node) (target : String) :
    Except Mishap (Except InvalidParameter Explanation) :=
  let resolved := node.resolve
  match resolved.validate node.input target with
  | .error error => return .error error
  | .ok valid => do
    let parameters := resolved.parameters
    let amounts ← guardedPadAmounts valid.padType valid.extents parameters.kernelSizes
      parameters.strides parameters.pad
    let extents ← guardedOutputExtents valid.padType valid.extents parameters.kernelSizes
      parameters.strides parameters.pad parameters.ceilMode
    return .ok {
      resolved
      padType := valid.padType
      padAmounts := amounts
      outputType := ⟨node.input.elementType, node.input.shape.withSpatial extents⟩ }

/-- The lists have the entries that so many axes are computed from and no others, and each stride may be
divided by. -/
structure Explanation.Matched (explanation : Explanation) (axisCount : ℕ) : Prop where
  kernelSizes : explanation.resolved.parameters.kernelSizes.length = axisCount
  strides : explanation.resolved.parameters.strides.length = axisCount
  pad : explanation.resolved.parameters.pad.length = 2 * axisCount
  padAmounts : explanation.padAmounts.length = axisCount
  full : ∀ padding ∈ explanation.padAmounts, padding.IsFull
  divisors : ∀ stride ∈ explanation.resolved.parameters.strides, ∃ S : ℤ, 1 ≤ S ∧ stride.Holds S

section Accepted

variable {node : Node} {target : String} {valid : Validated}

theorem matched_of_accepted (validated : node.resolve.validate node.input target = .ok valid) :
    (node.explained valid).Matched valid.extents.length := by
  obtain ⟨meets, -⟩ := ResolvedPool.validate_eq_ok_iff_meets.mp validated
  rw [length_extents validated]
  exact
    { kernelSizes := (meets.lists .kernelSizes).length
      strides := (meets.lists .strides).length
      pad := (meets.lists .pad).length
      padAmounts := Node.length_padAmounts validated
      full := Node.isFull_of_mem validated
      divisors := (meets.lists .strides).whole }

/-- Lists that match cover every axis under any mode. -/
theorem Explanation.Matched.covered {explanation : Explanation} {axisCount : ℕ}
    (matched : explanation.Matched axisCount) (padType : PadType) {index : ℕ}
    (inside : index < axisCount) :
    PaddingCovered padType explanation.resolved.parameters.kernelSizes
        explanation.resolved.parameters.strides explanation.resolved.parameters.pad index ∧
      WindowCovered explanation.resolved.parameters.kernelSizes
        explanation.resolved.parameters.strides index := by
  have thereIs {entries : List Binary64} {position : ℕ} (behind : position < entries.length) :
      ∃ entry, entries[position]? = some entry :=
    ⟨_, List.getElem?_eq_getElem behind⟩
  obtain ⟨stride, strideAt⟩ := thereIs (matched.strides.symm ▸ inside)
  have divisor := isDivisor_iff.mpr (matched.divisors stride (List.mem_of_getElem? strideAt))
  have window : WindowCovered explanation.resolved.parameters.kernelSizes
      explanation.resolved.parameters.strides index :=
    ⟨thereIs (matched.kernelSizes.symm ▸ inside), stride, strideAt, divisor⟩
  have amounts : AmountsCovered explanation.resolved.parameters.pad index :=
    ⟨thereIs (by rw [matched.pad]; omega), thereIs (by rw [matched.pad]; omega)⟩
  refine ⟨?_, window⟩
  cases padType with
  | valid => trivial
  | custom => exact amounts
  | same => exact window
  | sameLower => exact window

/-- No guard stops an explanation, whatever the node. -/
theorem Node.guardedExplanation_eq (node : Node) (target : String) :
    node.guardedExplanation target = .ok (node.explanation target) := by
  rw [Node.explanation_eq, Node.guardedExplanation]
  cases validated : node.resolve.validate node.input target with
  | error error => rfl
  | ok valid =>
    have covered : ∀ index < valid.extents.length, _ := fun _ inside =>
      (matched_of_accepted validated).covered valid.padType inside
    have amounts := guardedPadAmounts_eq_ok_iff.mpr ⟨fun index inside => (covered index inside).1, rfl⟩
    exact bind_eq_ok_iff.mpr ⟨_, amounts, bind_eq_ok_iff.mpr
      ⟨_, guardedOutputExtents_eq_ok_iff.mpr ⟨covered, rfl⟩, rfl⟩⟩

end Accepted

/-- A node is either refused before anything is computed, or all that its explanation reads is there: the
lists have an entry for every position that is read and none beyond, and whatever is divided by is a whole
number from one on. -/
theorem explanation_reads_what_is_there (node : Node) (configuration : Configuration)
    (options : Options) :
    node.guardedExplanation (options.targetUnder configuration) =
        .ok (node.explanation (options.targetUnder configuration)) ∧
      ((∃ error,
          node.resolve.validate node.input (options.targetUnder configuration) = .error error ∧
            (node.explain configuration options).result = .error (.parameter error)) ∨
        ∃ valid explanation,
          node.resolve.validate node.input (options.targetUnder configuration) = .ok valid ∧
            (node.explain configuration options).result = .ok explanation ∧
            explanation.Matched valid.extents.length) := by
  refine ⟨node.guardedExplanation_eq _, ?_⟩
  cases validated : node.resolve.validate node.input (options.targetUnder configuration) with
  | error error => exact .inl ⟨error, rfl, Node.explain_eq_error validated⟩
  | ok valid =>
    have accepted := Node.explain_eq_ok_iff.mpr (Node.explanation_eq_ok_iff.mpr ⟨valid, validated, rfl⟩)
    exact .inr ⟨valid, _, rfl, accepted, matched_of_accepted validated⟩

end Pooling
