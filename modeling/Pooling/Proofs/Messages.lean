/-
This file settles what a caller can read off the text of a failure. The text of an error names the operator
and goes on with words that belong to one check, or to the two checks of a dim, which have the number of the
dim next and words of their own behind it. No such beginning is part of another, so the text tells the
operator, the check and the dim, whatever values it goes on to show, and a failure of the configuration is
not taken for one of an operator.
-/

import Mathlib.Tactic
import Pooling.Inference

namespace Pooling

/-- A text that is put into another one stands there as it is. -/
theorem toString_string (text : String) : toString text = text :=
  rfl

/-! ### Checks -/

/-- A check of an operation, without the values that it looks at. -/
inductive Check where
  | elementType
  | rank
  | symbol
  | extent
  | length (list : AxisList)
  | range (list : AxisList)
  | operatorRank
  | padType
  | ceilRank
  | ceilSame
  | symmetry
  | target
  deriving DecidableEq

namespace Fault

/-- The check that finds the fault. -/
def check : Fault → Check
  | elementType _ => .elementType
  | rank _ => .rank
  | emptySymbol _ => .symbol
  | extent _ _ _ => .extent
  | length list _ _ => .length list
  | range list _ => .range list
  | l2Rank _ => .operatorRank
  | padType _ => .padType
  | ceilRank _ => .ceilRank
  | ceilSame => .ceilSame
  | asymmetric _ _ _ _ => .symmetry
  | sameLowerTarget _ => .target

/-- The number of the dim that is at fault. -/
def dim? : Fault → Option ℕ
  | emptySymbol index => some index
  | extent index _ _ => some index
  | _ => none

end Fault

namespace Check

/-- All checks. -/
def all : List Check :=
  [elementType, rank, symbol, extent, length .kernelSizes, range .kernelSizes, length .strides,
    range .strides, length .pad, range .pad, operatorRank, padType, ceilRank, ceilSame, symmetry,
    target]

theorem mem_all (check : Check) : check ∈ all := by
  cases check with
  | length list => cases list <;> decide
  | range list => cases list <;> decide
  | _ => decide

/-- The words in front of all values. -/
def heading : Check → String
  | elementType => "input element type must be one of fp16, fp32, got "
  | rank => "input rank must be between 3 and 5, got "
  | symbol => "input dim "
  | extent => "input dim "
  | length .kernelSizes => "kernel_sizes must have length "
  | length .strides => "strides must have length "
  | length .pad => "pad must have length "
  | range .kernelSizes => "kernel_sizes must be positive integers, got "
  | range .strides => "strides must be positive integers, got "
  | range .pad => "pad must be non-negative integers, got "
  | operatorRank => "only 1D or 2D pooling is supported, got "
  | padType => "unrecognized pad_type \""
  | ceilRank => "ceil_mode is only supported for 1D or 2D pooling, got "
  | ceilSame => "ceil_mode must be false when pad_type is same"
  | symmetry => "padding must be symmetric when ceil_mode is true, got pad "
  | target => "pad_type same_lower is not supported on target "

/-- No heading is the beginning of another one, but the two checks of a dim share theirs. -/
theorem heading_apart : ∀ first ∈ all, ∀ second ∈ all,
    first.heading.toList <+: second.heading.toList →
      first = second ∨ first.heading = "input dim " ∧ second.heading = "input dim " := by
  decide +kernel

end Check

/-! ### Texts of faults -/

namespace Fault

/-- What the text goes on with behind the heading. -/
def details : Fault → String
  | elementType found => found
  | rank shape => toString shape.length ++ " for shape " ++ Shape.text shape
  | emptySymbol index => toString index ++ " has an empty symbol"
  | extent index found shape =>
    toString index ++ " must be a non-negative integer, got " ++ found.text ++ " in " ++ Shape.text shape
  | length _ expected values =>
    expected.text ++ ", got " ++ toString values.length ++ " (" ++ numbersText values ++ ")"
  | range _ values => numbersText values
  | l2Rank spatialRank => toString spatialRank ++ " spatial dims"
  | padType text => text ++ "\", expected one of valid, same, custom, same_lower"
  | ceilRank spatialRank => toString spatialRank ++ " spatial dims"
  | ceilSame => ""
  | asymmetric pad axis before after =>
    numbersText pad ++ " (dim " ++ toString axis ++ ": " ++ before.text ++ " before, " ++ after.text ++
      " after)"
  | sameLowerTarget target => target

/-- The text of a fault is the heading of its check and then the values. -/
theorem text_eq (fault : Fault) : fault.text = fault.check.heading ++ fault.details := by
  have elementTypes : elementTypeChoices = "fp16, fp32" := by decide +kernel
  have modes : PadType.choices = "valid, same, custom, same_lower" := by decide +kernel
  have leastRank : toString minRank = "3" := by decide +kernel
  have greatestRank : toString maxRank = "5" := by decide +kernel
  have gap : " " ++ "(dim " = " (dim " := by decide +kernel
  cases fault with
  | length list expected values =>
    cases list
    all_goals
      dsimp only [text, check, Check.heading, details, AxisList.name]
      simp only [toString_string, ← String.append_assoc, String.reduceAppend]
  | range list values =>
    cases list
    all_goals
      dsimp only [text, check, Check.heading, details, AxisList.name, AxisList.bound]
      simp only [toString_string, String.reduceAppend]
  | padType found =>
    dsimp only [text, check, Check.heading, details]
    simp only [toString_string, modes, String.append_assoc, String.reduceAppend]
  | asymmetric pad axis before after =>
    dsimp only [text, check, Check.heading, details]
    rw [← gap]
    simp only [toString_string, ← String.append_assoc]
  | _ =>
    dsimp only [text, check, Check.heading, details]
    simp only [toString_string, elementTypes, leastRank, greatestRank, ← String.append_assoc,
      String.reduceAppend]

theorem heading_prefix (fault : Fault) : fault.check.heading.toList <+: fault.text.toList := by
  rw [text_eq, String.toList_append]
  exact List.prefix_append _ _

/-- The faults of dims are those whose heading is followed by a number. -/
theorem heading_dim_iff (fault : Fault) :
    fault.check.heading = "input dim " ↔ ∃ index, fault.dim? = some index := by
  cases fault with
  | length list expected values => cases list <;> simp [check, Check.heading, dim?]
  | range list values => cases list <;> simp [check, Check.heading, dim?]
  | _ => simp [check, Check.heading, dim?]

/-- Two numbers that are written out in front of a blank are told apart by what is written. -/
theorem digits_inj {first second : ℕ} {rest other : List Char}
    (same : (toString first).toList ++ ' ' :: rest = (toString second).toList ++ ' ' :: other) :
    first = second ∧ rest = other := by
  have digits (number : ℕ) (tail : List Char) :
      ((toString number).toList ++ ' ' :: tail).takeWhile Char.isDigit =
        Nat.toDigits 10 number := by
    rw [Nat.toString_eq_ofList_toDigits, String.toList_ofList, List.takeWhile_append_of_pos]
    · simp
    · exact fun c member => Nat.isDigit_of_mem_toDigits (by norm_num) le_rfl member
  have sameDigits := congrArg (List.takeWhile Char.isDigit) same
  rw [digits, digits] at sameDigits
  have numbers := congrArg (fun list => Nat.ofDigitChars 10 list 0) sameDigits
  simp only [Nat.ofDigitChars_ten_toDigits] at numbers
  subst numbers
  exact ⟨rfl, (List.cons.inj (List.append_cancel_left same)).2⟩

/-- Behind the number stands a blank, and then the words of the one check of a dim or of the other. -/
theorem details_dim {fault : Fault} {index : ℕ} (atDim : fault.dim? = some index) :
    (fault.check = .symbol ∧ ∃ rest,
        fault.details.toList = (toString index).toList ++ ' ' :: 'h' :: rest) ∨
      (fault.check = .extent ∧ ∃ rest,
        fault.details.toList = (toString index).toList ++ ' ' :: 'm' :: rest) := by
  cases fault with
  | emptySymbol found =>
    obtain rfl := Option.some_inj.mp atDim
    refine Or.inl ⟨rfl, "as an empty symbol".toList, ?_⟩
    rw [details, String.toList_append]
    rfl
  | extent found dim shape =>
    obtain rfl := Option.some_inj.mp atDim
    refine Or.inr ⟨rfl, ("ust be a non-negative integer, got " ++ dim.text ++ " in " ++
      Shape.text shape).toList, ?_⟩
    simp only [details, String.toList_append, String.reduceToList, List.append_assoc,
      List.cons_append, List.nil_append]
  | _ => cases atDim

/-- What follows the heading that the checks of a dim share tells which of them it is, and at which dim. -/
theorem check_eq_of_details_eq {first second : Fault} {index other : ℕ}
    (atDim : first.dim? = some index) (atOther : second.dim? = some other)
    (same : first.details.toList = second.details.toList) :
    first.check = second.check ∧ index = other := by
  rcases details_dim atDim with ⟨check, rest, shown⟩ | ⟨check, rest, shown⟩ <;>
    rcases details_dim atOther with ⟨otherCheck, otherRest, otherShown⟩ |
      ⟨otherCheck, otherRest, otherShown⟩ <;>
    rw [shown, otherShown] at same <;>
    obtain ⟨number, words⟩ := digits_inj same
  · exact ⟨check.trans otherCheck.symm, number⟩
  · exact absurd (List.cons.inj words).1 (by decide)
  · exact absurd (List.cons.inj words).1 (by decide)
  · exact ⟨check.trans otherCheck.symm, number⟩

theorem dim?_eq_none {fault : Fault} (other : fault.check.heading ≠ "input dim ") :
    fault.dim? = none :=
  Option.eq_none_iff_forall_ne_some.mpr fun index atDim =>
    other (fault.heading_dim_iff.mpr ⟨index, atDim⟩)

/-- Faults that read alike are found by the same check, at the same dim if it is one of dims. -/
theorem check_eq_of_text_eq {first second : Fault} (same : first.text = second.text) :
    first.check = second.check ∧ first.dim? = second.dim? := by
  have begins := first.heading_prefix
  rw [same] at begins
  have apart : first.check = second.check ∨
      first.check.heading = "input dim " ∧ second.check.heading = "input dim " := by
    rcases List.prefix_or_prefix_of_prefix begins second.heading_prefix with shorter | longer
    · exact Check.heading_apart _ (Check.mem_all _) _ (Check.mem_all _) shorter
    · exact (Check.heading_apart _ (Check.mem_all _) _ (Check.mem_all _) longer).imp Eq.symm And.symm
  by_cases dims : first.check.heading = "input dim "
  · have otherDims : second.check.heading = "input dim " := by
      rcases apart with equal | ⟨-, heading⟩
      · rw [← equal, dims]
      · exact heading
    obtain ⟨index, atDim⟩ := first.heading_dim_iff.mp dims
    obtain ⟨other, atOther⟩ := second.heading_dim_iff.mp otherDims
    have details := congrArg String.toList same
    rw [text_eq, text_eq, dims, otherDims, String.toList_append, String.toList_append,
      List.append_cancel_left_eq] at details
    obtain ⟨check, number⟩ := check_eq_of_details_eq atDim atOther details
    rw [atDim, atOther, number]
    exact ⟨check, rfl⟩
  · have equal : first.check = second.check := apart.resolve_right fun both => dims both.1
    rw [dim?_eq_none dims, dim?_eq_none (equal ▸ dims)]
    exact ⟨equal, rfl⟩

end Fault

/-! ### Messages -/

/-- The operators are told apart by their names in front of a colon. -/
theorem Operator.name_colon_inj {first second : Operator} {rest other : List Char}
    (same : first.name.toList ++ ':' :: rest = second.name.toList ++ ':' :: other) :
    first = second ∧ rest = other := by
  cases first <;> cases second <;> simp_all [Operator.name]

theorem InvalidParameter.toList_message (error : InvalidParameter) :
    error.message.toList = error.operator.name.toList ++ ':' :: ' ' :: error.fault.text.toList := by
  unfold message
  simp only [toString_string, String.toList_append, List.append_assoc]
  rfl

/-- No operator has the first letter of the variable that the configuration is read from. -/
theorem message_ne_message (error : InvalidParameter) (unread : ConfigurationError) :
    error.message ≠ unread.message := by
  intro same
  have letters := congrArg (fun text => text.toList.head?) same
  rw [error.toList_message] at letters
  cases unread with
  | unknownTarget name =>
    unfold ConfigurationError.message at letters
    simp only [toString_string, String.toList_append, String.reduceToList, List.cons_append,
      List.head?_cons] at letters
    cases named : error.operator <;> simp [named, Operator.name] at letters

/-- What a failure is about: the configuration, or an operator that fails a check, at a dim or not. -/
def Failure.subject : Failure → Option (Operator × Check × Option ℕ)
  | .configuration _ => none
  | .parameter error => some (error.operator, error.fault.check, error.fault.dim?)

/-- Failures that read alike are about the same. -/
theorem subject_eq_of_message_eq {first second : Failure} (same : first.message = second.message) :
    first.subject = second.subject := by
  cases first with
  | configuration unread =>
    cases second with
    | configuration other => rfl
    | parameter error => exact absurd same.symm (message_ne_message error unread)
  | parameter error =>
    cases second with
    | configuration unread => exact absurd same (message_ne_message error unread)
    | parameter other =>
      have characters := congrArg String.toList same
      change error.message.toList = other.message.toList at characters
      rw [error.toList_message, other.toList_message] at characters
      obtain ⟨operator, texts⟩ := Operator.name_colon_inj characters
      obtain ⟨check, dim⟩ := Fault.check_eq_of_text_eq
        (String.toList_inj.mp (List.cons.inj texts).2)
      rw [Failure.subject, Failure.subject, operator, check, dim]

end Pooling
