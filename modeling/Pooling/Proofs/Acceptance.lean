/-
This file settles which pooling operations are accepted, and which fault is reported of the others: an
operation is accepted if all of its conditions hold, and otherwise the fault is that of the first one
that does not. A condition may take the earlier ones for granted, so the conditions are compared with
the checks in the order of the list. Lengths are compared as numbers of the format; that is no weaker,
for the length that is asked for is small. The padding mode is the one that a platform's lower-casing
shows.
-/

import Pooling.Proofs.Requirements
import Pooling.Proofs.LowerCase

namespace Pooling

open Binary64

/-! ### The checks of an input type -/

theorem elementTypes_iff (name : String) :
    name ∈ elementTypes ↔ name = "fp16" ∨ name = "fp32" := by
  simp [elementTypes]

theorem isConcrete_iff {size : Binary64} :
    (Dim.extent size).isConcrete = true ↔ ∃ n : ℕ, size.Holds n := by
  rw [Dim.isConcrete, Bool.and_eq_true, isInteger_iff]
  constructor
  · rintro ⟨⟨n, held⟩, nonnegative⟩
    have ordered : (0 : ℚ) ≤ n := by exact_mod_cast (atMost_iff holds_zero held).mp nonnegative
    obtain ⟨count, rfl⟩ := Int.eq_ofNat_of_zero_le (by exact_mod_cast ordered : 0 ≤ n)
    exact ⟨count, held⟩
  · rintro ⟨n, held⟩
    exact ⟨⟨n, held⟩, (atMost_iff holds_zero held).mpr (by simp)⟩

theorem reports_dim (shape : Shape) (index : ℕ) (dim : Dim) :
    Reports [⟨dim.AllowedAt index, dim.faultAt shape index⟩] (shape.dimFault? index dim) := by
  apply Reports.single
  · intro allowed
    cases dim with
    | symbol name =>
      obtain ⟨leading, nonempty⟩ := allowed
      simp [Shape.dimFault?, Shape.leadingRank, leading, nonempty]
    | extent size => simp only [Shape.dimFault?, isConcrete_iff.mpr allowed, if_true]
  · intro refused
    cases dim with
    | symbol name =>
      by_cases leading : index < 2
      · have empty : name = "" := by
          by_contra nonempty
          exact refused ⟨leading, nonempty⟩
        simp [Shape.dimFault?, Shape.leadingRank, Dim.faultAt, leading, empty]
      · simp [Shape.dimFault?, Shape.leadingRank, Dim.faultAt, leading]
    | extent size =>
      have vague := isConcrete_iff.not.mpr refused
      simp [Shape.dimFault?, vague, Dim.faultAt]

theorem Shape.fault?_eq (shape : Shape) :
    shape.fault? = shape.zipIdx.findSome? fun (dim, index) => shape.dimFault? index dim := by
  rw [Shape.fault?, List.mapIdx_eq_zipIdx_map, List.findSome?_map]
  rfl

theorem reports_input (input : TensorType) : Reports input.requirements input.fault? := by
  have dims : Reports (input.shape.zipIdx.flatMap fun (dim, index) =>
      [⟨dim.AllowedAt index, dim.faultAt input.shape index⟩]) input.shape.fault? := by
    rw [Shape.fault?_eq]
    exact Reports.flatMap fun member _ => reports_dim input.shape member.2 member.1
  unfold TensorType.requirements TensorType.fault?
  split
  · rename_i foreign
    exact Reports.unmet ((elementTypes_iff _).not.mp foreign)
  rename_i known
  refine Reports.met ((elementTypes_iff _).mp (not_not.mp known)) ?_
  split
  · rename_i outside
    refine Reports.unmet ?_
    rintro ⟨low, high⟩
    exact outside.elim (not_lt.mpr low) (not_lt.mpr high)
  · rename_i inside
    rw [not_or, not_lt, not_lt] at inside
    exact Reports.met inside dims

theorem TensorType.rank_bounds {input : TensorType}
    (all : ∀ requirement ∈ input.requirements, requirement.holds) : 3 ≤ input.rank ∧ input.rank ≤ 5 :=
  all ⟨3 ≤ input.rank ∧ input.rank ≤ 5, .rank input.shape⟩ (by simp [requirements])

theorem TensorType.allowedAt {input : TensorType}
    (all : ∀ requirement ∈ input.requirements, requirement.holds) {index : ℕ} {dim : Dim}
    (found : input.shape[index]? = some dim) : dim.AllowedAt index := by
  refine all ⟨dim.AllowedAt index, dim.faultAt input.shape index⟩ ?_
  refine List.mem_append_right _ (List.mem_flatMap.mpr ⟨(dim, index), ?_, List.mem_singleton_self _⟩)
  exact List.mk_mem_zipIdx_iff_getElem?.mpr found

/-- Behind batch and channel an allowed shape has extents only. -/
theorem TensorType.drop_eq_spatialExtents {input : TensorType}
    (all : ∀ requirement ∈ input.requirements, requirement.holds) :
    input.shape.drop 2 = input.shape.spatialExtents.map Dim.extent := by
  have extents : ∀ dim ∈ input.shape.drop 2, ∃ size, dim = .extent size := by
    intro dim member
    obtain ⟨index, found⟩ := List.mem_iff_getElem?.mp member
    rw [List.getElem?_drop] at found
    have allowed := TensorType.allowedAt all found
    cases dim with
    | symbol name => exact absurd allowed.1 (by omega)
    | extent size => exact ⟨size, rfl⟩
  unfold Shape.spatialExtents Shape.leadingRank
  generalize input.shape.drop 2 = dims at extents
  induction dims with
  | nil => rfl
  | cons dim rest inductionHypothesis =>
    obtain ⟨⟨size, rfl⟩, restExtents⟩ := List.forall_mem_cons.mp extents
    have found : (Dim.extent size).size? = some size := rfl
    rw [List.filterMap_cons_some found, List.map_cons, ← inductionHypothesis restExtents]

theorem Shape.length_spatialExtents_le (shape : Shape) :
    shape.spatialExtents.length ≤ shape.length - 2 := by
  refine (List.length_filterMap_le _ _).trans ?_
  rw [List.length_drop]
  rfl

theorem TensorType.length_spatialExtents {input : TensorType}
    (all : ∀ requirement ∈ input.requirements, requirement.holds) :
    input.shape.spatialExtents.length = input.rank - 2 := by
  have lengths := congrArg List.length (TensorType.drop_eq_spatialExtents all)
  rw [List.length_drop, List.length_map] at lengths
  exact lengths.symm

/-! ### The checks of the lists -/

/-- Lengths are compared as numbers, which tells every length apart from a small one. -/
theorem sameValue_ofNat (length : ℕ) {count : ℕ} (small : count ≤ 2 ^ 52) :
    (ofNat length).sameValue (ofNat count) = true ↔ length = count := by
  have countHeld : (ofNat count).Holds count := holds_ofNat (small.trans (by norm_num))
  rw [sameValue_iff countHeld]
  rcases le_or_gt length (2 ^ 53) with short | long
  · constructor
    · intro same
      exact_mod_cast (holds_ofNat short).unique same
    · rintro rfl
      exact countHeld
  · refine iff_of_false ?_ (by omega)
    intro same
    have equal : (count : ℚ) = nearest length := toRat?_ofRat same
    have longRational : (2 : ℚ) ^ 53 ≤ length := by exact_mod_cast long.le
    have smallRational : (count : ℚ) ≤ 2 ^ 52 := by exact_mod_cast small
    have magnitude : |(length : ℚ)| = length := abs_of_nonneg (by positivity)
    have normal : (2 : ℚ) ^ (-1022 : ℤ) ≤ |(length : ℚ)| := by
      rw [magnitude]
      exact (zpow_le_one_of_nonpos₀ one_le_two (by norm_num)).trans (by linarith)
    have error := (abs_le.mp (nearest_relative_error normal)).1
    rw [magnitude, ← equal] at error
    linarith

namespace AxisList

theorem lengthFor_ofNat (list : AxisList) {spatialRank : ℕ} (flat : spatialRank ≤ 3) :
    list.lengthFor (Binary64.ofNat spatialRank) = Binary64.ofNat (list.countFor spatialRank) := by
  cases list with
  | kernelSizes => rfl
  | strides => rfl
  | pad =>
    show 2 * Binary64.ofNat spatialRank = Binary64.ofNat (2 * spatialRank)
    interval_cases spatialRank <;> decide +kernel

theorem countFor_le (list : AxisList) {spatialRank : ℕ} (flat : spatialRank ≤ 3) :
    list.countFor spatialRank ≤ 2 ^ 52 := by
  cases list <;> simp only [countFor] <;> omega

theorem least_holds (list : AxisList) : list.least.Holds list.leastWhole := by
  cases list with
  | kernelSizes => exact holds_one
  | strides => exact holds_one
  | pad => exact holds_zero

theorem allows_iff (list : AxisList) (entry : Binary64) :
    list.allows entry = true ↔ ∃ n : ℤ, list.leastWhole ≤ n ∧ entry.Holds n := by
  unfold allows
  rw [Bool.and_eq_true, isInteger_iff, Bool.not_eq_true', ← Bool.not_eq_true]
  have ordered {n : ℤ} (held : entry.Holds n) :
      ¬ entry.less list.least = true ↔ list.leastWhole ≤ n := by
    rw [less_iff held list.least_holds, not_lt, Int.cast_le]
  constructor
  · rintro ⟨⟨n, held⟩, enough⟩
    exact ⟨n, (ordered held).mp enough, held⟩
  · rintro ⟨n, enough, held⟩
    exact ⟨⟨n, held⟩, (ordered held).mpr enough⟩

theorem reports_list (parameters : Parameters) {spatialRank : ℕ} (flat : spatialRank ≤ 3)
    (list : AxisList) :
    Reports (list.requirements parameters spatialRank)
      (list.fault? parameters (Binary64.ofNat spatialRank)) := by
  have lengths := sameValue_ofNat (list.values parameters).length (list.countFor_le flat)
  have entries : (list.values parameters).all list.allows = true ↔
      ∀ entry ∈ list.values parameters, ∃ n : ℤ, list.leastWhole ≤ n ∧ entry.Holds n := by
    simp only [List.all_eq_true, allows_iff]
  unfold requirements requirementsOn fault?
  dsimp only
  rw [list.lengthFor_ofNat flat]
  split
  · rename_i different
    rw [Bool.not_eq_true', ← Bool.not_eq_true, lengths] at different
    exact Reports.unmet different
  rename_i same
  rw [Bool.not_eq_true', Bool.not_eq_false, lengths] at same
  refine Reports.met same ?_
  split
  · rename_i allowed
    exact Reports.met (entries.mp allowed) Reports.done
  · rename_i refused
    exact Reports.unmet (entries.not.mp refused)

end AxisList

/-! ### The checks of the operator, the mode and the target -/

theorem reports_operator (pool : ResolvedPool) (spatialRank : ℕ) :
    Reports [⟨pool.HasOperator .l2Pool → spatialRank ≤ 2, .l2Rank spatialRank⟩]
      (pool.operator.rankFault? spatialRank) := by
  apply Reports.single
  · intro flat
    unfold Operator.rankFault?
    rw [if_neg]
    rintro ⟨isL2, deep⟩
    exact absurd (flat ((pool.hasOperator_iff _).mpr isL2.symm)) (not_le.mpr deep)
  · intro deep
    rw [Classical.not_imp, not_le, pool.hasOperator_iff] at deep
    exact if_pos ⟨deep.1.symm, deep.2⟩

/-- Only the earliest target finds a fault. -/
theorem PadType.targetFault?_of_late (padType : PadType) {target : String}
    (late : target ≠ "opset15") : padType.targetFault? target = none :=
  if_neg fun both => late both.1

theorem reports_target (padType : PadType) (target : String) :
    Reports [⟨target = "opset15" → padType.name ≠ "same_lower", .sameLowerTarget target⟩]
      (padType.targetFault? target) := by
  have sameLower : padType.name = "same_lower" ↔ padType = .sameLower := by
    cases padType <;> decide
  apply Reports.single
  · intro supported
    unfold PadType.targetFault?
    rw [if_neg]
    rintro ⟨early, isSameLower⟩
    exact supported early (sameLower.mpr isSameLower)
  · intro unsupported
    rw [Classical.not_imp, not_not, sameLower] at unsupported
    exact if_pos unsupported

/-- The amounts of an axis are compared once they are known to be there and whole. -/
theorem reports_symmetry (parameters : Parameters) {axis : ℕ}
    (rounding : parameters.ceilMode = true) (given : parameters.padGiven = true)
    {before after : ℤ} (beforeHeld : HoldsAt parameters.pad (2 * axis) before)
    (afterHeld : HoldsAt parameters.pad (2 * axis + 1) after) :
    Reports [parameters.symmetry axis] (parameters.asymmetry? axis) := by
  have alike : (operand parameters.pad[2 * axis]?).sameValue
      (operand parameters.pad[2 * axis + 1]?) = true ↔ before = after := by
    rw [sameValue_iff afterHeld.operand]
    constructor
    · intro same
      exact beforeHeld.operand.unique same
    · rintro rfl
      exact beforeHeld.operand
  unfold Parameters.asymmetry?
  dsimp only
  split
  · rename_i same
    obtain rfl := alike.mp same
    exact Reports.met (fun _ _ => ⟨before, beforeHeld, afterHeld⟩) Reports.done
  · rename_i different
    refine Reports.unmet fun condition => different (alike.mpr ?_)
    obtain ⟨n, firstHeld, secondHeld⟩ := condition rounding given
    exact (beforeHeld.unique firstHeld).trans (secondHeld.unique afterHeld)

/-- What the conditions on a list say of its entries, one by one. -/
theorem AxisList.holdsAt {parameters : Parameters} {spatialRank : ℕ} {list : AxisList}
    (all : ∀ requirement ∈ list.requirements parameters spatialRank, requirement.holds) (index : ℕ)
    (bounded : index < list.countFor spatialRank) :
    ∃ n : ℤ, list.leastWhole ≤ n ∧ HoldsAt (list.values parameters) index n := by
  obtain ⟨lengths, entries, -⟩ := List.forall_mem_cons.mp all |>.imp id List.forall_mem_cons.mp
  have inside : index < (list.values parameters).length := lengths.symm ▸ bounded
  obtain ⟨n, enough, held⟩ := entries _ (List.getElem_mem inside)
  exact ⟨n, enough, _, List.getElem?_eq_getElem inside, held⟩

/-- Amounts that were not listed, and amounts that are not rounded up, need not be alike. -/
theorem symmetry_of_unchecked {parameters : Parameters}
    (unchecked : ¬ (parameters.ceilMode = true ∧ parameters.padGiven = true)) (spatialRank : ℕ) :
    ∀ requirement ∈ (List.range spatialRank).flatMap (fun axis => [parameters.symmetry axis]),
      requirement.holds := by
  intro requirement member
  obtain ⟨axis, -, isSymmetry⟩ := List.mem_flatMap.mp member
  rw [List.mem_singleton.mp isSymmetry]
  exact fun up given => absurd ⟨up, given⟩ unchecked

/-- Rounding down is always possible. -/
theorem rounding_of_down {parameters : Parameters} (down : ¬ parameters.ceilMode = true)
    (spatialRank : ℕ) (mode : String) :
    ∀ requirement ∈ parameters.roundingRequirements spatialRank mode, requirement.holds := by
  refine List.forall_mem_cons.mpr ⟨fun up => absurd up down, ?_⟩
  refine List.forall_mem_cons.mpr ⟨fun up => absurd up down, ?_⟩
  exact symmetry_of_unchecked (fun checked => down checked.1) spatialRank

theorem reports_rounding (parameters : Parameters) {spatialRank : ℕ} (padType : PadType)
    (padAllowed : ∀ requirement ∈ AxisList.pad.requirements parameters spatialRank,
      requirement.holds) :
    Reports (parameters.roundingRequirements spatialRank padType.name)
      (parameters.ceilFault? padType spatialRank) := by
  have same : padType.name = "same" ↔ padType = .same := by
    cases padType <;> decide
  unfold Parameters.ceilFault?
  split
  · rename_i down
    rw [Bool.not_eq_true', ← Bool.not_eq_true] at down
    exact Reports.of_all (rounding_of_down down spatialRank padType.name)
  rename_i up
  rw [Bool.not_eq_true', Bool.not_eq_false] at up
  unfold Parameters.roundingRequirements
  split
  · rename_i deep
    exact Reports.unmet fun flat => absurd (flat up) (not_le.mpr deep)
  rename_i flat
  refine Reports.met (fun _ => not_lt.mp flat) ?_
  split
  · rename_i isSame
    exact Reports.unmet fun other => other up (same.mpr isSame)
  rename_i notSame
  refine Reports.met (fun _ => same.not.mpr notSame) ?_
  split
  · rename_i given
    refine Reports.flatMap fun axis member => ?_
    have inside : axis < spatialRank := List.mem_range.mp member
    obtain ⟨before, -, beforeHeld⟩ := AxisList.holdsAt padAllowed (2 * axis)
      (by simp only [AxisList.countFor]; omega)
    obtain ⟨after, -, afterHeld⟩ := AxisList.holdsAt padAllowed (2 * axis + 1)
      (by simp only [AxisList.countFor]; omega)
    exact reports_symmetry parameters up given beforeHeld afterHeld
  · rename_i notGiven
    exact Reports.of_all (symmetry_of_unchecked (fun checked => notGiven checked.2) spatialRank)

/-! ### All checks -/

/-- The first fault of a resolved operation. The checks of rounding and target need the mode that was
read. -/
def ResolvedPool.fault? (pool : ResolvedPool) (input : TensorType) (target : String) : Option Fault :=
  let spatialRank := input.shape.spatialExtents.length
  let padType := PadType.ofText? pool.parameters.padType
  ((((input.fault? <|>
    AxisList.all.findSome? fun list =>
      list.fault? pool.parameters (Binary64.ofNat spatialRank)) <|>
    pool.operator.rankFault? spatialRank) <|>
    if padType = none then some (.padType pool.parameters.padType) else none) <|>
    padType.bind fun mode => pool.parameters.ceilFault? mode spatialRank) <|>
    padType.bind fun mode => mode.targetFault? target

/-- A validation ends with the first fault, or with the mode and the extents. -/
theorem ResolvedPool.validate_eq (pool : ResolvedPool) (input : TensorType) (target : String) :
    pool.validate input target =
      match pool.fault? input target, PadType.ofText? pool.parameters.padType with
      | some fault, _ => .error ⟨pool.operator, fault⟩
      | none, some padType => .ok ⟨padType, input.shape.spatialExtents⟩
      | none, none => .error ⟨pool.operator, .padType pool.parameters.padType⟩ := by
  have opened : pool.validate input target =
      (pool.operator.report input.fault? >>= fun _ =>
        pool.operator.report (AxisList.all.findSome? fun list => list.fault? pool.parameters
          (Binary64.ofNat input.shape.spatialExtents.length)) >>= fun _ =>
        pool.operator.report (pool.operator.rankFault? input.shape.spatialExtents.length) >>= fun _ =>
        readPadType pool.operator pool.parameters.padType >>= fun padType =>
        pool.operator.report
          (pool.parameters.ceilFault? padType input.shape.spatialExtents.length) >>= fun _ =>
        pool.operator.report (padType.targetFault? target) >>= fun _ =>
        .ok ⟨padType, input.shape.spatialExtents⟩) := by
    unfold validate validateInput validateLists
    cases input.fault? <;> rfl
  rw [opened]
  unfold fault? readPadType
  dsimp only
  generalize (AxisList.all.findSome? fun list => list.fault? pool.parameters
    (Binary64.ofNat input.shape.spatialExtents.length)) = lists
  generalize pool.operator.rankFault? input.shape.spatialExtents.length = operators
  cases input.fault? with
  | some fault => rfl
  | none =>
  cases lists with
  | some fault => rfl
  | none =>
  cases operators with
  | some fault => rfl
  | none =>
  cases PadType.ofText? pool.parameters.padType with
  | none => rfl
  | some padType =>
  show (pool.operator.report (pool.parameters.ceilFault? padType _) >>= fun _ => _) = _
  dsimp only [Option.bind_some]
  generalize pool.parameters.ceilFault? padType input.shape.spatialExtents.length = rounding
  generalize padType.targetFault? target = support
  cases rounding with
  | some fault => rfl
  | none => cases support <;> rfl

theorem PadType.mem_names_iff (name : String) :
    name ∈ ["valid", "same", "custom", "same_lower"] ↔ ∃ padType : PadType, name = padType.name := by
  constructor
  · intro member
    have known : name = "valid" ∨ name = "same" ∨ name = "custom" ∨ name = "same_lower" := by
      simpa using member
    rcases known with rfl | rfl | rfl | rfl
    exacts [⟨.valid, rfl⟩, ⟨.same, rfl⟩, ⟨.custom, rfl⟩, ⟨.sameLower, rfl⟩]
  · rintro ⟨padType, rfl⟩
    cases padType <;> decide

section Pool

variable {lower : String → String} (lowerCasing : IsLowerCasing lower) (pool : ResolvedPool)
  (input : TensorType) (target : String)

include lowerCasing

/-- Every text is read as a mode, or its lower case names none. -/
theorem ofText?_cases (text : String) :
    (∃ padType, PadType.ofText? text = some padType ∧ lower text = padType.name) ∨
      (PadType.ofText? text = none ∧ lower text ∉ ["valid", "same", "custom", "same_lower"]) := by
  rw [PadType.mem_names_iff]
  cases found : PadType.ofText? text with
  | some padType => exact Or.inl ⟨padType, rfl, (PadType.ofText?_eq_some_iff lowerCasing).mp found⟩
  | none =>
    refine Or.inr ⟨rfl, ?_⟩
    rintro ⟨padType, named⟩
    rw [(PadType.ofText?_eq_some_iff lowerCasing).mpr named] at found
    cases found

/-- A text is read as a mode if its lower case names one. -/
theorem exists_ofText?_eq_some {text : String}
    (known : lower text ∈ ["valid", "same", "custom", "same_lower"]) :
    ∃ padType, PadType.ofText? text = some padType ∧ lower text = padType.name := by
  rcases ofText?_cases lowerCasing text with mode | ⟨-, unnamed⟩
  · exact mode
  · exact absurd known unnamed

theorem reports_mode (text : String) :
    Reports [⟨lower text ∈ ["valid", "same", "custom", "same_lower"], .padType text⟩]
      (if PadType.ofText? text = none then some (.padType text) else none) := by
  rcases ofText?_cases lowerCasing text with ⟨padType, found, named⟩ | ⟨missing, unnamed⟩
  · rw [found, if_neg (Option.some_ne_none padType)]
    exact Reports.met ((PadType.mem_names_iff _).mpr ⟨padType, named⟩) Reports.done
  · rw [missing, if_pos rfl]
    exact Reports.unmet unnamed

/-- The checks go through the requirements in their order. -/
theorem reports_pool : Reports (pool.requirements lower input target) (pool.fault? input target) := by
  unfold ResolvedPool.requirements ResolvedPool.fault?
  refine Reports.append (Reports.append (Reports.append (Reports.append (Reports.append
    (reports_input input) ?_) ?_) ?_) ?_) ?_
  · intro inputAllowed
    rw [TensorType.length_spatialExtents inputAllowed]
    have flat : input.rank - 2 ≤ 3 := by
      have := (TensorType.rank_bounds inputAllowed).2
      omega
    rw [Parameters.listRequirements_eq]
    exact Reports.flatMap fun list _ => AxisList.reports_list pool.parameters flat list
  · intro listsAllowed
    rw [TensorType.length_spatialExtents (List.forall_mem_append.mp listsAllowed).1]
    exact reports_operator pool _
  · exact fun _ => reports_mode lowerCasing pool.parameters.padType
  · intro modeAllowed
    obtain ⟨operatorAllowed, modeKnown⟩ := List.forall_mem_append.mp modeAllowed
    obtain ⟨listsAllowed, -⟩ := List.forall_mem_append.mp operatorAllowed
    obtain ⟨inputAllowed, entriesAllowed⟩ := List.forall_mem_append.mp listsAllowed
    have known := List.forall_mem_singleton.mp modeKnown
    obtain ⟨padType, found, named⟩ := exists_ofText?_eq_some lowerCasing known
    rw [TensorType.length_spatialExtents inputAllowed, found, named]
    refine reports_rounding pool.parameters padType fun requirement member => ?_
    exact entriesAllowed requirement (Parameters.mem_listRequirements member)
  · intro roundingAllowed
    obtain ⟨modeAllowed, -⟩ := List.forall_mem_append.mp roundingAllowed
    obtain ⟨-, modeKnown⟩ := List.forall_mem_append.mp modeAllowed
    have known := List.forall_mem_singleton.mp modeKnown
    obtain ⟨padType, found, named⟩ := exists_ofText?_eq_some lowerCasing known
    rw [found, named]
    exact reports_target padType target

/-- A validation comes to an end in one of two ways, which its first fault tells apart. -/
theorem validate_cases :
    (pool.fault? input target = none ∧ ∃ padType, lower pool.parameters.padType = padType.name ∧
      pool.validate input target = .ok ⟨padType, input.shape.spatialExtents⟩) ∨
    ∃ fault, pool.fault? input target = some fault ∧
      pool.validate input target = .error ⟨pool.operator, fault⟩ := by
  rw [ResolvedPool.validate_eq]
  cases found : pool.fault? input target with
  | some fault => exact Or.inr ⟨fault, rfl, rfl⟩
  | none =>
    have all := (reports_pool lowerCasing pool input target).eq_none_iff.mp found
    obtain ⟨padType, read, named⟩ :=
      exists_ofText?_eq_some lowerCasing (ResolvedPool.mode_known all)
    rw [read]
    exact Or.inl ⟨rfl, padType, named, rfl⟩

/-- An operation is accepted exactly if it meets every requirement. The mode it is then computed under
is the one that the padding type names in lower case, and the extents are those behind batch and
channel. -/
theorem validate_eq_ok_iff (valid : Validated) :
    pool.validate input target = .ok valid ↔
      (∀ requirement ∈ pool.requirements lower input target, requirement.holds) ∧
        lower pool.parameters.padType = valid.padType.name ∧
        input.shape.drop 2 = valid.extents.map Dim.extent := by
  have reports := reports_pool lowerCasing pool input target
  rw [← reports.eq_none_iff]
  rcases validate_cases lowerCasing pool input target with
    ⟨nothing, padType, named, accepted⟩ | ⟨fault, something, refused⟩
  · have dims := TensorType.drop_eq_spatialExtents
      (ResolvedPool.input_allowed (reports.eq_none_iff.mp nothing))
    rw [accepted, Except.ok.injEq, named, dims]
    constructor
    · rintro rfl
      exact ⟨nothing, rfl, rfl⟩
    · rintro ⟨-, sameName, sameDims⟩
      have extentsEq : input.shape.spatialExtents = valid.extents :=
        List.map_injective_iff.mpr (fun _ _ equal => Dim.extent.inj equal) sameDims
      rw [PadType.name_injective sameName, extentsEq]
  · rw [refused, something]
    simp

/-- A refused operation has the fault of the first requirement that it does not meet. -/
theorem validate_eq_error_iff (error : InvalidParameter) :
    pool.validate input target = .error error ↔
      error.operator = pool.operator ∧
        FirstUnmet (pool.requirements lower input target) error.fault := by
  have reports := reports_pool lowerCasing pool input target
  rw [← reports.eq_some_iff]
  rcases validate_cases lowerCasing pool input target with
    ⟨nothing, padType, named, accepted⟩ | ⟨fault, something, refused⟩
  · rw [accepted, nothing]
    simp
  · rw [refused, something, Except.error.injEq, Option.some_inj]
    constructor
    · rintro rfl
      exact ⟨rfl, rfl⟩
    · rintro ⟨sameOperator, sameFault⟩
      rw [← sameOperator, sameFault]

end Pool

/-- The mode has the name in lower case. -/
inductive PadType.Named : PadType → String → Prop where
  | valid : Named .valid "valid"
  | same : Named .same "same"
  | custom : Named .custom "custom"
  | sameLower : Named .sameLower "same_lower"

theorem PadType.named_name (padType : PadType) : padType.Named padType.name := by
  cases padType <;> constructor

/-- An operation is accepted exactly if it meets every requirement, and then its mode and its extents
are those of the request. Otherwise the error names the operator and the fault of the first requirement
that is not met. -/
theorem validate_accepts_or_reports_first (lower : String → String)
    (lowerCasing : IsLowerCasing lower) (pool : ResolvedPool) (input : TensorType)
    (target : String) :
    ((∃ valid, pool.validate input target = .ok valid) ↔
        ∀ requirement ∈ pool.requirements lower input target, requirement.holds) ∧
      (∀ valid, pool.validate input target = .ok valid →
        valid.padType.Named (lower pool.parameters.padType) ∧
          input.shape.drop 2 = valid.extents.map Dim.extent) ∧
      ∀ error, pool.validate input target = .error error ↔
        pool.HasOperator error.operator ∧
          FirstUnmet (pool.requirements lower input target) error.fault := by
  have acceptedIff := validate_eq_ok_iff lowerCasing pool input target
  refine ⟨⟨?_, ?_⟩, fun valid accepted => ?_, fun error => ?_⟩
  · rintro ⟨valid, accepted⟩
    exact ((acceptedIff valid).mp accepted).1
  · intro all
    have nothing := (reports_pool lowerCasing pool input target).eq_none_iff.mpr all
    rcases validate_cases lowerCasing pool input target with
      ⟨-, padType, -, accepted⟩ | ⟨fault, something, -⟩
    · exact ⟨_, accepted⟩
    · rw [nothing] at something
      cases something
  · obtain ⟨-, named, extents⟩ := (acceptedIff valid).mp accepted
    rw [named]
    exact ⟨valid.padType.named_name, extents⟩
  · rw [pool.hasOperator_iff]
    exact validate_eq_error_iff lowerCasing pool input target error

/-- Strides, mode and pad amounts are all at fault, and so is rounding up. -/
def manyFaultsPool (kernelSizes : List Binary64) : ResolvedPool :=
  ⟨.avgPool true, ⟨kernelSizes, [0], "reflect", [1], true, true⟩⟩

theorem validate_reports_lists_in_order :
    IsLowerCasing String.toLower ∧
      FirstUnmet ((manyFaultsPool [.nan]).requirements String.toLower
          ⟨"fp32", [.symbol "N", .extent 1, .extent 5]⟩ "opset15")
        (.range .kernelSizes [.nan]) ∧
      FirstUnmet ((manyFaultsPool [3]).requirements String.toLower
          ⟨"fp32", [.symbol "N", .extent 1, .extent 5]⟩ "opset15")
        (.range .strides [0]) ∧
      (manyFaultsPool [3]).HasOperator .avgPool := by
  have kernelRefused : (manyFaultsPool [.nan]).validate
      ⟨"fp32", [.symbol "N", .extent 1, .extent 5]⟩ "opset15" =
        .error ⟨.avgPool, .range .kernelSizes [.nan]⟩ := by decide +kernel
  have strideRefused : (manyFaultsPool [3]).validate
      ⟨"fp32", [.symbol "N", .extent 1, .extent 5]⟩ "opset15" =
        .error ⟨.avgPool, .range .strides [0]⟩ := by decide +kernel
  obtain ⟨-, -, kernelErrors⟩ := validate_accepts_or_reports_first String.toLower
    isLowerCasing_toLower (manyFaultsPool [.nan])
    ⟨"fp32", [.symbol "N", .extent 1, .extent 5]⟩ "opset15"
  obtain ⟨-, -, strideErrors⟩ := validate_accepts_or_reports_first String.toLower
    isLowerCasing_toLower (manyFaultsPool [3])
    ⟨"fp32", [.symbol "N", .extent 1, .extent 5]⟩ "opset15"
  exact ⟨isLowerCasing_toLower, ((kernelErrors _).mp kernelRefused).2,
    ((strideErrors _).mp strideRefused).2, ((strideErrors _).mp strideRefused).1⟩

end Pooling
