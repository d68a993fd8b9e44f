/-
This file states the conditions under which a pooling operation is accepted. They stand in one list,
each with the fault that belongs to it: dims and axes one by one, every list of numbers by its length
and then by its entries. The fault to report is that of the first condition that does not hold, and a
relation between lists of conditions and reports says how a search for it goes.
-/

import Pooling.Validation
import Pooling.Proofs.Arithmetic

namespace Pooling

open Binary64

/-! ### Requirements in order -/

/-- A condition, and the fault of an operation that does not meet it. -/
structure Requirement where
  holds : Prop
  fault : Fault

/-- The fault belongs to the first requirement that does not hold. -/
def FirstUnmet (requirements : List Requirement) (fault : Fault) : Prop :=
  ∃ earlier unmet later, requirements = earlier ++ unmet :: later ∧
    (∀ requirement ∈ earlier, requirement.holds) ∧ ¬ unmet.holds ∧ unmet.fault = fault

namespace FirstUnmet

variable {requirements later : List Requirement} {fault : Fault}

theorem append_right (first : FirstUnmet requirements fault) (later : List Requirement) :
    FirstUnmet (requirements ++ later) fault := by
  obtain ⟨earlier, unmet, rest, rfl, allHold, fails, reported⟩ := first
  exact ⟨earlier, unmet, rest ++ later, by rw [List.append_assoc, List.cons_append], allHold, fails,
    reported⟩

theorem append_left (allHold : ∀ requirement ∈ requirements, requirement.holds)
    (first : FirstUnmet later fault) : FirstUnmet (requirements ++ later) fault := by
  obtain ⟨earlier, unmet, rest, rfl, earlierHold, fails, reported⟩ := first
  exact ⟨requirements ++ earlier, unmet, rest, by rw [List.append_assoc],
    List.forall_mem_append.mpr ⟨allHold, earlierHold⟩, fails, reported⟩

/-- Of requirements that are numbered, the first unmet one has the least number. -/
theorem of_range {requirementOf : ℕ → Requirement} {count index : ℕ} (inside : index < count)
    (earlier : ∀ before < index, (requirementOf before).holds)
    (fails : ¬ (requirementOf index).holds) :
    FirstUnmet ((List.range count).flatMap fun number => [requirementOf number])
      (requirementOf index).fault := by
  obtain ⟨rest, rfl⟩ := Nat.exists_eq_add_of_le inside
  rw [List.range_add, List.range_succ, List.flatMap_append, List.flatMap_append]
  refine append_right (append_left ?_ ⟨[], _, [], rfl, List.forall_mem_nil _, fails, rfl⟩) _
  simp only [List.forall_mem_flatMap, List.forall_mem_singleton, List.mem_range]
  exact earlier

end FirstUnmet

/-- Going through the requirements in order comes to the given fault, or to none. -/
inductive Reports : List Requirement → Option Fault → Prop where
  | done : Reports [] none
  | unmet {requirement : Requirement} {rest : List Requirement} (fails : ¬ requirement.holds) :
      Reports (requirement :: rest) (some requirement.fault)
  | met {requirement : Requirement} {rest : List Requirement} {found : Option Fault}
      (holds : requirement.holds) (later : Reports rest found) : Reports (requirement :: rest) found

namespace Reports

variable {requirements : List Requirement} {found : Option Fault}

theorem of_all (all : ∀ requirement ∈ requirements, requirement.holds) :
    Reports requirements none := by
  induction requirements with
  | nil => exact done
  | cons requirement rest inductionHypothesis =>
    obtain ⟨holds, restHolds⟩ := List.forall_mem_cons.mp all
    exact met holds (inductionHypothesis restHolds)

theorem of_firstUnmet {fault : Fault} (first : FirstUnmet requirements fault) :
    Reports requirements (some fault) := by
  obtain ⟨earlier, unmet, later, rfl, allHold, fails, rfl⟩ := first
  induction earlier with
  | nil => exact Reports.unmet fails
  | cons requirement rest inductionHypothesis =>
    obtain ⟨holds, restHolds⟩ := List.forall_mem_cons.mp allHold
    exact met holds (inductionHypothesis restHolds)

theorem unique {other : Option Fault} (first : Reports requirements found)
    (second : Reports requirements other) : found = other := by
  induction first with
  | done =>
    cases second
    rfl
  | unmet fails =>
    cases second with
    | unmet => rfl
    | met holds => exact absurd holds fails
  | met holds later inductionHypothesis =>
    cases second with
    | unmet fails => exact absurd holds fails
    | met _ otherLater => exact inductionHypothesis otherLater

/-- Nothing is reported exactly if every requirement holds. -/
theorem eq_none_iff (reports : Reports requirements found) :
    found = none ↔ ∀ requirement ∈ requirements, requirement.holds := by
  constructor
  · intro nothing
    induction reports with
    | done => simp
    | unmet fails => cases nothing
    | met holds later inductionHypothesis =>
      exact List.forall_mem_cons.mpr ⟨holds, inductionHypothesis nothing⟩
  · intro all
    exact reports.unique (of_all all)

/-- A fault is reported exactly if it is that of the first unmet requirement. -/
theorem eq_some_iff (reports : Reports requirements found) {fault : Fault} :
    found = some fault ↔ FirstUnmet requirements fault := by
  constructor
  · intro something
    induction reports with
    | done => cases something
    | @unmet requirement rest fails =>
      exact ⟨[], requirement, rest, rfl, by simp, fails, Option.some_inj.mp something⟩
    | @met requirement rest found holds later inductionHypothesis =>
      obtain ⟨earlier, unmet, after, split, allHold, fails, same⟩ := inductionHypothesis something
      exact ⟨requirement :: earlier, unmet, after, by rw [split, List.cons_append],
        List.forall_mem_cons.mpr ⟨holds, allHold⟩, fails, same⟩
  · intro first
    exact reports.unique (of_firstUnmet first)

/-- Later requirements count once the earlier ones hold. -/
theorem append {later : List Requirement} {next : Option Fault} (first : Reports requirements found)
    (second : (∀ requirement ∈ requirements, requirement.holds) → Reports later next) :
    Reports (requirements ++ later) (found <|> next) := by
  induction first with
  | done => exact second (by simp)
  | unmet fails => exact unmet fails
  | met holds _ inductionHypothesis =>
    exact met holds (inductionHypothesis fun all => second (List.forall_mem_cons.mpr ⟨holds, all⟩))

/-- A search through a list goes through the requirements of its members. -/
theorem flatMap {Member : Type} {members : List Member} {requirementsOf : Member → List Requirement}
    {faultOf : Member → Option Fault}
    (each : ∀ member ∈ members, Reports (requirementsOf member) (faultOf member)) :
    Reports (members.flatMap requirementsOf) (members.findSome? faultOf) := by
  induction members with
  | nil => exact done
  | cons member rest inductionHypothesis =>
    obtain ⟨head, tail⟩ := List.forall_mem_cons.mp each
    have joined := head.append fun _ => inductionHypothesis tail
    rw [List.flatMap_cons, List.findSome?_cons]
    cases reported : faultOf member with
    | none => rwa [reported] at joined
    | some fault => rwa [reported] at joined

/-- A single requirement is the condition of the check that reports it. -/
theorem single {requirement : Requirement} (fault : Option Fault)
    (nothing : requirement.holds → fault = none)
    (something : ¬ requirement.holds → fault = some requirement.fault) :
    Reports [requirement] fault := by
  by_cases holds : requirement.holds
  · rw [nothing holds]
    exact met holds done
  · rw [something holds]
    exact unmet holds

end Reports

/-! ### The conditions -/

/-- The entry at an index is there and holds the whole number. -/
def HoldsAt (entries : List Binary64) (index : ℕ) (n : ℤ) : Prop :=
  ∃ entry, entries[index]? = some entry ∧ entry.Holds n

theorem HoldsAt.operand {entries : List Binary64} {index : ℕ} {n : ℤ}
    (held : HoldsAt entries index n) : (Pooling.operand entries[index]?).Holds n := by
  obtain ⟨entry, found, entryHeld⟩ := held
  rw [found]
  exact entryHeld

theorem HoldsAt.unique {entries : List Binary64} {index : ℕ} {m n : ℤ}
    (first : HoldsAt entries index m) (second : HoldsAt entries index n) : m = n :=
  first.operand.unique second.operand

/-- The dim may stand at the index: a symbol only in front of the spatial dims and not an empty one, and
otherwise a whole number that is not negative. -/
def Dim.AllowedAt (index : ℕ) : Dim → Prop
  | .symbol name => index < 2 ∧ name ≠ ""
  | .extent size => ∃ n : ℕ, size.Holds n

/-- Behind batch and channel, wherever it stands, a dim has to be a whole number that is not negative. -/
theorem Dim.allowedAt_spatial_iff {index : ℕ} (behind : 2 ≤ index) {dim : Dim} :
    dim.AllowedAt index ↔ ∃ (size : Binary64) (n : ℤ), dim = .extent size ∧ size.Holds n ∧ 0 ≤ n := by
  cases dim with
  | symbol name =>
    refine iff_of_false (fun allowed => absurd allowed.1 (not_lt.mpr behind)) ?_
    rintro ⟨size, n, isExtent, -⟩
    cases isExtent
  | extent size =>
    constructor
    · rintro ⟨n, held⟩
      exact ⟨size, n, rfl, held, Int.natCast_nonneg n⟩
    · rintro ⟨other, n, same, held, nonnegative⟩
      obtain rfl := Dim.extent.inj same
      obtain ⟨m, rfl⟩ := Int.eq_ofNat_of_zero_le nonnegative
      exact ⟨m, held⟩

/-- The fault of a dim that may not stand at the index. In front of the spatial dims the only fault of a
symbol is that it is empty. -/
def Dim.faultAt (shape : Shape) (index : ℕ) : Dim → Fault
  | .symbol name => if index < 2 then .emptySymbol index else .extent index (.symbol name) shape
  | .extent size => .extent index (.extent size) shape

/-- The conditions on an input type. -/
def TensorType.requirements (input : TensorType) : List Requirement :=
  [⟨input.elementType = "fp16" ∨ input.elementType = "fp32", .elementType input.elementType⟩,
    ⟨3 ≤ input.rank ∧ input.rank ≤ 5, .rank input.shape⟩] ++
  input.shape.zipIdx.flatMap fun (dim, index) =>
    [⟨dim.AllowedAt index, dim.faultAt input.shape index⟩]

/-- The conditions on a list: it has so many entries, and then each is a whole number that is not below
the least one. -/
def AxisList.requirementsOn (list : AxisList) (entries : List Binary64) (count : ℕ) (least : ℤ) :
    List Requirement :=
  [⟨entries.length = count, .length list (Binary64.ofNat count) entries⟩,
    ⟨∀ entry ∈ entries, ∃ n : ℤ, least ≤ n ∧ entry.Holds n, .range list entries⟩]

/-- The conditions on the lists for so many spatial axes: kernel sizes and strides have a positive entry
for each, and then pad amounts two that are not negative. -/
def Parameters.listRequirements (parameters : Parameters) (spatialRank : ℕ) : List Requirement :=
  AxisList.kernelSizes.requirementsOn parameters.kernelSizes spatialRank 1 ++
  AxisList.strides.requirementsOn parameters.strides spatialRank 1 ++
  AxisList.pad.requirementsOn parameters.pad (2 * spatialRank) 0

/-- The condition on the pad amounts of an axis when rounding up: if they were listed, they are alike.
-/
def Parameters.symmetry (parameters : Parameters) (axis : ℕ) : Requirement :=
  ⟨parameters.ceilMode = true → parameters.padGiven = true →
      ∃ n : ℤ, HoldsAt parameters.pad (2 * axis) n ∧ HoldsAt parameters.pad (2 * axis + 1) n,
    .asymmetric parameters.pad axis (parameters.pad[2 * axis]?.getD .nan)
      (parameters.pad[2 * axis + 1]?.getD .nan)⟩

/-- The conditions on rounding up under a padding mode, given by its name in lower case. -/
def Parameters.roundingRequirements (parameters : Parameters) (spatialRank : ℕ) (mode : String) :
    List Requirement :=
  [⟨parameters.ceilMode = true → spatialRank ≤ 2, .ceilRank spatialRank⟩,
    ⟨parameters.ceilMode = true → mode ≠ "same", .ceilSame⟩] ++
  (List.range spatialRank).flatMap fun axis => [parameters.symmetry axis]

/-- The operation is one of the operator, whatever it does about padded positions. -/
def ResolvedPool.HasOperator (pool : ResolvedPool) : Operator → Prop
  | .avgPool => ∃ excludePadding, pool.variant = .avgPool excludePadding
  | .l2Pool => pool.variant = .l2Pool
  | .maxPool => pool.variant = .maxPool

/-- All conditions on a resolved operation in the order in which they are checked. The padding mode is
known by its name in lower case. -/
def ResolvedPool.requirements (lower : String → String) (pool : ResolvedPool) (input : TensorType)
    (target : String) : List Requirement :=
  let spatialRank := input.rank - 2
  let mode := lower pool.parameters.padType
  input.requirements ++
  pool.parameters.listRequirements spatialRank ++
  [⟨pool.HasOperator .l2Pool → spatialRank ≤ 2, .l2Rank spatialRank⟩] ++
  [⟨mode ∈ ["valid", "same", "custom", "same_lower"], .padType pool.parameters.padType⟩] ++
  pool.parameters.roundingRequirements spatialRank mode ++
  [⟨target = "opset15" → mode ≠ "same_lower", .sameLowerTarget target⟩]

/-! ### The lists alike -/

namespace AxisList

/-- How many entries the list has for so many spatial axes. -/
def countFor (list : AxisList) (spatialRank : ℕ) : ℕ :=
  match list with
  | kernelSizes => spatialRank
  | strides => spatialRank
  | pad => 2 * spatialRank

/-- The least whole number that the list may hold. -/
def leastWhole : AxisList → ℤ
  | kernelSizes => 1
  | strides => 1
  | pad => 0

/-- The conditions on whichever list it is. -/
def requirements (parameters : Parameters) (spatialRank : ℕ) (list : AxisList) : List Requirement :=
  list.requirementsOn (list.values parameters) (list.countFor spatialRank) list.leastWhole

end AxisList

/-- The lists come in the order of the checks. -/
theorem Parameters.listRequirements_eq (parameters : Parameters) (spatialRank : ℕ) :
    parameters.listRequirements spatialRank =
      AxisList.all.flatMap (AxisList.requirements parameters spatialRank) :=
  rfl

theorem Parameters.mem_listRequirements {parameters : Parameters} {spatialRank : ℕ} {list : AxisList}
    {requirement : Requirement} (member : requirement ∈ list.requirements parameters spatialRank) :
    requirement ∈ parameters.listRequirements spatialRank := by
  have listed : list ∈ AxisList.all := by cases list <;> decide
  rw [listRequirements_eq]
  exact List.mem_flatMap.mpr ⟨list, listed, member⟩

/-! ### The conditions part by part -/

namespace ResolvedPool

theorem hasOperator_iff (pool : ResolvedPool) (operator : Operator) :
    pool.HasOperator operator ↔ operator = pool.operator := by
  cases pool with
  | mk variant parameters =>
    cases variant <;> cases operator <;> simp [HasOperator, ResolvedPool.operator, Variant.operator]

variable {lower : String → String} {pool : ResolvedPool} {input : TensorType} {target : String}
  (all : ∀ requirement ∈ pool.requirements lower input target, requirement.holds)

include all

theorem input_allowed : ∀ requirement ∈ input.requirements, requirement.holds :=
  fun requirement member => all requirement (by simp [requirements, member])

theorem list_allowed (list : AxisList) :
    ∀ requirement ∈ list.requirements pool.parameters (input.rank - 2), requirement.holds := by
  intro requirement member
  refine all requirement ?_
  simp only [requirements, List.mem_append]
  exact Or.inl (Or.inl (Or.inl (Or.inl (Or.inr (Parameters.mem_listRequirements member)))))

theorem mode_known :
    lower pool.parameters.padType ∈ ["valid", "same", "custom", "same_lower"] :=
  all ⟨_, .padType pool.parameters.padType⟩ (by simp [requirements])

theorem target_supported :
    target = "opset15" → lower pool.parameters.padType ≠ "same_lower" :=
  all ⟨_, .sameLowerTarget target⟩ (by simp [requirements])

end ResolvedPool

end Pooling
