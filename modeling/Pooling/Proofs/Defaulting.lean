/-
This file shows that a default can be written out. An unset attribute that is set to the value it would
have taken leaves every answer as it was: only the note that the caller listed the pad amounts changes,
and the one check that looks at it compares amounts that are all zero. So a fault in a list, or amounts
that are not alike, are never the fault of a default.
-/

import Pooling.Catalog
import Pooling.Proofs.Conditions
import Pooling.Proofs.FiniteResults

namespace Pooling

open Binary64

/-! ### Defaults of a rank -/

namespace Binary64

theorem toLength_of_holds {x : Binary64} {n : ℕ} (held : x.Holds n) :
    x.toLength = if n < 2 ^ 32 then .ok n else .error .invalidLength := by
  have value : x.toRat? = some (n : ℚ) := by
    rw [← Int.cast_natCast]
    exact held
  have bound : (n : ℚ) < lengthBound ↔ n < 2 ^ 32 := by
    rw [lengthBound, show (2 : ℚ) ^ (32 : ℤ) = ((2 ^ 32 : ℕ) : ℚ) by norm_num, Nat.cast_lt]
  unfold toLength
  rw [value]
  simp [bound]

/-- A great count rounds to the positive infinity, or two off it leave a great whole number. -/
theorem sub_two_of_great {rank : ℕ} (great : 2 ^ 52 < rank) :
    ofNat rank = infinity false ∨ ∃ n : ℤ, (ofNat rank - 2).Holds n ∧ 2 ^ 49 ≤ n := by
  have greatRational : (2 : ℚ) ^ 52 ≤ rank := by exact_mod_cast great.le
  have rounds : (ofNat rank).Rounds rank := rounds_round _ _
  rcases rounds.cases_of_nonneg (Nat.cast_nonneg rank) with beyond | ⟨r, -, value⟩
  · exact Or.inl beyond
  -- Each of the two roundings at most halves the number.
  have kept : (2 : ℚ) ^ 51 ≤ r := by
    have low := (nearest_bounds (show (1 : ℚ) ≤ rank by linarith)).1
    rw [rounds.eq_nearest value]
    linarith
  obtain ⟨s, restValue⟩ :=
    (isFinite_sub_iff (rounds.isNonneg (Nat.cast_nonneg rank)) holds_two two_pos.le).mpr ⟨r, value⟩
  have restKept : (2 : ℚ) ^ 49 ≤ s := by
    have low := (nearest_bounds (show (1 : ℚ) ≤ r - 2 by linarith)).1
    have restRounds := rounds_sub value holds_two
    rw [Int.cast_ofNat] at restRounds
    rw [restRounds.eq_nearest restValue]
    linarith
  have whole : (ofNat rank).IsWhole := by
    refine IsWhole.of_nearest fun q found => ⟨rank, ?_⟩
    rw [Int.cast_natCast]
    exact toRat?_ofRat found
  obtain ⟨n, rfl⟩ := whole.sub (IsWhole.of_holds holds_two) s restValue
  exact Or.inr ⟨n, restValue, by exact_mod_cast restKept⟩

/-- Neither is a length. -/
theorem toLength_of_great {rank : ℕ} (great : 2 ^ 52 < rank) :
    ((ofNat rank - 2).maximum 0).toLength = .error .invalidLength := by
  rcases sub_two_of_great great with beyond | ⟨n, restHeld, restGreat⟩
  · rw [beyond, infinity_sub false ⟨_, holds_two⟩, infinity_maximum_zero]
    rfl
  have signed : ofNat rank - 2 ≠ negativeZero := by
    intro zero
    have vanishes : n = 0 := restHeld.unique (zero ▸ rfl)
    omega
  rw [restHeld.maximum_zero, max_eq_left (by omega), ← restHeld.eq_ofInt signed]
  obtain ⟨count, rfl⟩ := Int.eq_ofNat_of_zero_le (show 0 ≤ n by omega)
  rw [toLength_of_holds restHeld, if_neg (by omega)]

end Binary64

/-- For the rank of a shape the defaults are those that an unset attribute takes, unless they have too
many pad amounts for a list. -/
theorem Defaults.ofNumber_ofNat (rank : ℕ) :
    Defaults.ofNumber (Binary64.ofNat rank) =
      if 2 * (rank - 2) < 2 ^ 32 then .ok (Defaults.ofRank rank) else .error .invalidLength := by
  unfold Defaults.ofNumber
  dsimp only
  rcases le_or_gt rank (2 ^ 52) with small | great
  · have rankHeld : (Binary64.ofNat rank).Holds rank := holds_ofNat (small.trans (by norm_num))
    have restHeld : (Binary64.ofNat rank - 2).Holds (rank - 2) :=
      rankHeld.sub holds_two (abs_le.mpr ⟨by omega, by omega⟩)
    have count : max ((rank : ℤ) - 2) 0 = (rank - 2 : ℕ) := by omega
    have spatialHeld : ((Binary64.ofNat rank - 2).maximum 0).Holds (rank - 2 : ℕ) := by
      rw [restHeld.maximum_zero, count]
      exact holds_ofInt (abs_le.mpr ⟨by omega, by omega⟩)
    have padHeld : (2 * (Binary64.ofNat rank - 2).maximum 0).Holds (2 * (rank - 2) : ℕ) := by
      have doubled := holds_two.mul spatialHeld (abs_le.mpr ⟨by omega, by omega⟩)
      rwa [Nat.cast_mul]
    rw [toLength_of_holds spatialHeld, toLength_of_holds padHeld]
    by_cases fits : 2 * (rank - 2) < 2 ^ 32
    · rw [if_pos fits, if_pos (by omega), if_pos fits]
      rfl
    · rw [if_neg fits, if_neg fits]
      split <;> rfl
  · rw [toLength_of_great great, if_neg (by omega)]
    rfl

/-! ### Writing defaults out -/

/-- The attributes that are to be set to their defaults if they are unset. -/
structure Filling where
  strides : Bool
  pad : Bool
  ceilMode : Bool
  excludePadding : Bool
  deriving DecidableEq

/-- An attribute that is set to its default if it is chosen and unset. -/
def filled {Value : Type} (chosen : Bool) (default : Value) (given : Option Value) : Option Value :=
  if chosen then some (given.getD default) else given

section Filled

variable {Value : Type} (chosen : Bool) (default : Value) (given : Option Value)

@[simp] theorem filled_getD : (filled chosen default given).getD default = given.getD default := by
  cases chosen <;> rfl

@[simp] theorem isSome_filled : (filled chosen default given).isSome = (given.isSome || chosen) := by
  cases chosen <;> cases given <;> rfl

end Filled

/-- The attributes with the chosen ones set to the given defaults where they are unset. Leaving padded
positions out of an average is off by default. -/
def Attributes.fill (attributes : Attributes) (filling : Filling) (defaults : Defaults) : Attributes :=
  { attributes with
    strides := filled filling.strides defaults.strides attributes.strides
    pad := filled filling.pad defaults.pad attributes.pad
    ceilMode := filled filling.ceilMode defaults.ceilMode attributes.ceilMode
    excludePadding := filled filling.excludePadding false attributes.excludePadding }

/-- The node with chosen attributes set to the defaults for its rank where they are unset. -/
def Node.fill (node : Node) (filling : Filling) : Node :=
  { node with attributes := node.attributes.fill filling (Defaults.ofRank node.input.rank) }

/-- The operation with another note on whether the pad amounts were listed. -/
def ResolvedPool.withPadGiven (pool : ResolvedPool) (given : Bool) : ResolvedPool :=
  { pool with parameters := { pool.parameters with padGiven := given } }

/-- Writing defaults out changes nothing of the resolved operation but the note on the pad amounts. -/
theorem Node.resolve_fill (node : Node) (filling : Filling) :
    (node.fill filling).resolve =
      node.resolve.withPadGiven (node.resolve.parameters.padGiven || filling.pad) := by
  have variant : node.operator.variant (node.fill filling).attributes =
      node.operator.variant node.attributes := by
    cases node.operator with
    | avgPool => exact congrArg Variant.avgPool (filled_getD _ _ _)
    | l2Pool => rfl
    | maxPool => rfl
  show ResolvedPool.mk (node.operator.variant (node.fill filling).attributes) _ = _
  rw [variant]
  simp [resolve, Attributes.resolve, fill, Attributes.fill, ResolvedPool.withPadGiven]

/-! ### Amounts that are alike -/

/-- The note on the pad amounts does not matter to rounding up if the amounts of every axis are alike. -/
theorem Parameters.ceilFault?_of_alike {parameters : Parameters} {spatialRank : ℕ}
    (alike : ∀ axis < spatialRank, parameters.asymmetry? axis = none) (padType : PadType)
    (given : Bool) :
    { parameters with padGiven := given }.ceilFault? padType spatialRank =
      parameters.ceilFault? padType spatialRank := by
  have nothing : (List.range spatialRank).findSome? parameters.asymmetry? = none :=
    List.findSome?_eq_none_iff.mpr fun axis member => alike axis (List.mem_range.mp member)
  have nothingGiven : (List.range spatialRank).findSome?
      (Parameters.asymmetry? { parameters with padGiven := given }) = none := nothing
  unfold ceilFault?
  dsimp only
  rw [nothing, nothingGiven, ite_self, ite_self]

/-- Nor does it matter to the validation. -/
theorem ResolvedPool.validate_withPadGiven {pool : ResolvedPool} {input : TensorType}
    (alike : ∀ axis < input.rank - 2, pool.parameters.asymmetry? axis = none) (target : String)
    (given : Bool) :
    (pool.withPadGiven given).validate input target = pool.validate input target := by
  have few := Shape.length_spatialExtents_le input.shape
  have rounding (padType : PadType) :
      (pool.withPadGiven given).parameters.ceilFault? padType input.shape.spatialExtents.length =
        pool.parameters.ceilFault? padType input.shape.spatialExtents.length :=
    Parameters.ceilFault?_of_alike (fun axis inside => alike axis (inside.trans_le few)) padType given
  have same : (pool.withPadGiven given).fault? input target = pool.fault? input target := by
    unfold fault?
    dsimp only
    simp only [rounding]
    rfl
  rw [validate_eq, validate_eq, same]
  rfl

/-- The amounts that no caller listed are alike. -/
theorem Node.alike_of_unset {node : Node} (unset : node.attributes.pad = none) :
    ∀ axis < node.input.rank - 2, node.resolve.parameters.asymmetry? axis = none := by
  intro axis inside
  have same : (0 : Binary64).sameValue 0 = true := by decide +kernel
  unfold Parameters.asymmetry?
  rw [pad_of_unset unset, List.getElem?_replicate_of_lt (by omega),
    List.getElem?_replicate_of_lt (by omega)]
  exact if_pos same

/-! ### Answers -/

theorem Node.validate_fill (node : Node) (filling : Filling) (target : String) :
    (node.fill filling).resolve.validate node.input target =
      node.resolve.validate node.input target := by
  rw [node.resolve_fill]
  cases unset : node.attributes.pad with
  | none => exact ResolvedPool.validate_withPadGiven (alike_of_unset unset) target _
  | some pad =>
    have given : node.resolve.parameters.padGiven = true := by
      show node.attributes.pad.isSome = true
      rw [unset]
      rfl
    rw [given]
    show ResolvedPool.validate ⟨_, { node.resolve.parameters with padGiven := true }⟩ _ _ = _
    rw [← given]

/-- Explaining a node with defaults written out gives the same answer and writes the same lines; only the
resolved operation has the other note on the pad amounts. -/
theorem Node.explain_fill (node : Node) (filling : Filling) (configuration : Configuration)
    (options : Options) :
    (node.fill filling).explain configuration options =
      ⟨(node.explain configuration options).result.map fun explanation =>
          { explanation with resolved := (node.fill filling).resolve },
        (node.explain configuration options).log⟩ := by
  have explained (valid : Validated) : (node.fill filling).explained valid =
      { node.explained valid with resolved := (node.fill filling).resolve } := by
    unfold Node.explained
    rw [node.resolve_fill]
    rfl
  have explanation (target : String) : (node.fill filling).explanation target =
      (node.explanation target).map fun explanation =>
        { explanation with resolved := (node.fill filling).resolve } := by
    rw [explanation_eq, explanation_eq]
    show ((node.fill filling).resolve.validate node.input target).map _ = _
    rw [node.validate_fill]
    cases node.resolve.validate node.input target with
    | error error => rfl
    | ok valid => exact congrArg Except.ok (explained valid)
  unfold Node.explain
  dsimp only
  rw [explanation]
  cases found : node.explanation (options.targetUnder configuration) with
  | error error => rfl
  | ok answer =>
    obtain ⟨valid, -, rfl⟩ := explanation_eq_ok_iff.mp found
    dsimp only [Except.map, TraceLine.ofExplanation]
    rw [node.resolve_fill]
    rfl

/-! ### Faults of lists -/

/-- The list that the fault is about. -/
def Fault.list? : Fault → Option AxisList
  | .length list _ _ => some list
  | .range list _ => some list
  | .asymmetric _ _ _ _ => some .pad
  | _ => none

theorem Dim.list?_faultAt (shape : Shape) (index : ℕ) (dim : Dim) :
    (dim.faultAt shape index).list? = none := by
  cases dim with
  | symbol name =>
    rw [faultAt]
    split <;> rfl
  | extent size => rfl

/-- A condition with a fault of a list is a condition on the list, or one on amounts being alike. -/
theorem ResolvedPool.mem_requirements_of_list {lower : String → String} {pool : ResolvedPool}
    {input : TensorType} {target : String} {requirement : Requirement}
    (member : requirement ∈ pool.requirements lower input target) {list : AxisList}
    (about : requirement.fault.list? = some list) :
    requirement ∈ list.requirements pool.parameters (input.rank - 2) ∨
      list = .pad ∧ ∃ axis, requirement = pool.parameters.symmetry axis := by
  simp only [requirements, TensorType.requirements, Parameters.listRequirements_eq,
    Parameters.roundingRequirements, List.mem_append, List.mem_flatMap, List.mem_cons,
    List.not_mem_nil, or_false] at member
  rcases member with ((((((rfl | rfl) | ⟨dim, -, rfl⟩) | ⟨other, -, listed⟩) | rfl) | rfl) |
    (rfl | rfl) | ⟨axis, -, rfl⟩) | rfl
  case inl.inl.inl.inl.inl.inr =>
    rw [Dim.list?_faultAt] at about
    cases about
  case inl.inl.inl.inl.inr =>
    left
    have same : other = list := by
      rw [AxisList.requirements, AxisList.requirementsOn, List.mem_cons, List.mem_singleton] at listed
      rcases listed with rfl | rfl <;> exact Option.some_inj.mp about
    rwa [← same]
  case inl.inr.inr =>
    exact Or.inr ⟨(Option.some_inj.mp about).symm, axis, rfl⟩
  all_goals cases about

/-- A default passes the check of its list. -/
theorem AxisList.allowed_of_least {list : AxisList} {parameters : Parameters} {spatialRank : ℕ}
    (values : list.values parameters = List.replicate (list.countFor spatialRank) list.least) :
    list.Allowed parameters spatialRank where
  length := by rw [values, List.length_replicate]
  whole := by
    intro entry member
    rw [values] at member
    rw [List.eq_of_mem_replicate member]
    exact ⟨list.leastWhole, le_rfl, list.least_holds⟩

/-- A list is at fault only if it was set. -/
theorem Node.isSome_of_fault {node : Node} {target : String} {error : InvalidParameter}
    (refused : node.resolve.validate node.input target = .error error) :
    (error.fault.list? = some .strides → node.attributes.strides.isSome) ∧
      (error.fault.list? = some .pad → node.attributes.pad.isSome) := by
  obtain ⟨-, earlier, unmet, later, split, -, fails, same⟩ :=
    (validate_eq_error_iff isLowerCasing_toLower node.resolve node.input target error).mp refused
  have member : unmet ∈ node.resolve.requirements String.toLower node.input target := by
    rw [split]
    exact List.mem_append_right _ List.mem_cons_self
  have allowed (list : AxisList)
      (values : list.values node.resolve.parameters =
        List.replicate (list.countFor (node.input.rank - 2)) list.least)
      (listed : unmet ∈ list.requirements node.resolve.parameters (node.input.rank - 2)) : False :=
    fails ((list.forall_requirements_iff _ _).mpr (AxisList.allowed_of_least values) unmet listed)
  constructor
  · intro about
    by_contra unset
    rw [Option.not_isSome_iff_eq_none] at unset
    rcases ResolvedPool.mem_requirements_of_list member (same ▸ about) with listed | ⟨isPad, -⟩
    · exact allowed .strides (strides_of_unset unset) listed
    · cases isPad
  · intro about
    by_contra unset
    rcases ResolvedPool.mem_requirements_of_list member (same ▸ about) with
      listed | ⟨-, axis, symmetry⟩
    · rw [Option.not_isSome_iff_eq_none] at unset
      exact allowed .pad (pad_of_unset unset) listed
    · rw [symmetry] at fails
      exact fails fun _ given => absurd given unset

/-! ### Transparency -/

/-- Resolved parameters as a caller would give them. -/
def Parameters.attributes (parameters : Parameters) (excludePadding : Option Bool) : Attributes :=
  { kernelSizes := parameters.kernelSizes
    strides := some parameters.strides
    padType := parameters.padType
    pad := some parameters.pad
    ceilMode := some parameters.ceilMode
    excludePadding }

/-- Defaults are transparent. A node with any of its unset attributes set to their defaults explains to
the same mode, amounts and output, or fails with the same error, and writes the same lines. The resolved
operation is the same too, except that it notes pad amounts that were filled in as listed. So strides
and pad amounts are at fault only where they were set, and resolved parameters resolve to themselves,
with the amounts noted as listed. -/
theorem defaults_are_transparent (node : Node) (filling : Filling) (configuration : Configuration)
    (options : Options) :
    (∀ defaults, Defaults.ofNumber (Binary64.ofNat node.input.rank) = .ok defaults →
      node.fill filling = { node with attributes := node.attributes.fill filling defaults }) ∧
    (node.fill filling).resolve =
      node.resolve.withPadGiven (node.resolve.parameters.padGiven || filling.pad) ∧
    ((node.fill filling).explain configuration options).log =
      (node.explain configuration options).log ∧
    ((node.fill filling).explain configuration options).result =
      ((node.explain configuration options).result.map fun explanation =>
        { explanation with resolved := (node.fill filling).resolve }) ∧
    (∀ error, (node.explain configuration options).result = .error (.parameter error) →
      (error.fault.list? = some .strides → node.attributes.strides.isSome) ∧
        (error.fault.list? = some .pad → node.attributes.pad.isSome)) ∧
    ∀ (parameters : Parameters) excludePadding,
      { node with attributes := parameters.attributes excludePadding }.resolve.parameters =
        { parameters with padGiven := true } := by
  have explained := node.explain_fill filling configuration options
  refine ⟨fun defaults found => ?_, node.resolve_fill filling, by rw [explained], by rw [explained],
    fun error failed => ?_, fun parameters excludePadding => rfl⟩
  · rw [Defaults.ofNumber_ofNat] at found
    split at found
    · cases found
      rfl
    · cases found
  · obtain ⟨other, same, refused⟩ := Node.explain_eq_error_iff.mp failed
    cases same
    exact Node.isSome_of_fault refused

/-- One stride too many on a node that rounds up and lists no pad amounts. -/
def excessStrideNode : Node :=
  Node.create 1 .maxPool ⟨"fp32", .ofExtents [1, 1, 5]⟩
    { Attributes.required [2] "valid" with
      strides := some [1, 1]
      ceilMode := some true }

theorem excess_stride_is_no_default :
    Defaults.ofNumber (Binary64.ofNat excessStrideNode.input.rank) = .ok ⟨[1], [0, 0], false⟩ ∧
      (excessStrideNode.explain ⟨.opset15, true⟩ ⟨none, none⟩).result =
        .error (.parameter ⟨.maxPool, .length .strides 1 [1, 1]⟩) ∧
      (excessStrideNode.fill ⟨true, true, true, false⟩).attributes.pad = some [0, 0] ∧
      ((excessStrideNode.fill ⟨true, true, true, false⟩).explain ⟨.opset15, true⟩
        ⟨none, none⟩).result = .error (.parameter ⟨.maxPool, .length .strides 1 [1, 1]⟩) ∧
      excessStrideNode.attributes.strides.isSome := by
  have defaults : Defaults.ofNumber (Binary64.ofNat excessStrideNode.input.rank) =
      .ok ⟨[1], [0, 0], false⟩ := Defaults.ofNumber_ofNat 3
  have refused : (excessStrideNode.explain ⟨.opset15, true⟩ ⟨none, none⟩).result =
      .error (.parameter ⟨.maxPool, .length .strides 1 [1, 1]⟩) := by decide +kernel
  obtain ⟨fill, -, -, answer, listed, -⟩ := defaults_are_transparent excessStrideNode
    ⟨true, true, true, false⟩ ⟨.opset15, true⟩ ⟨none, none⟩
  refine ⟨defaults, refused, ?_, ?_, (listed _ refused).1 rfl⟩
  · rw [fill _ defaults]
    rfl
  · rw [answer, refused]
    rfl

end Pooling
