/-
This file says which environments give a configuration, and which one. A name counts without the white
space at its ends, so the relation between a text and its trimmed form stands beside the function that
computes it: nothing but white space is taken away, and none is left at an end.
-/

import Mathlib.Data.List.DropRight
import Mathlib.Tactic
import Pooling.Configuration

namespace Pooling

/-! ### White space -/

/-- The name is the text without the white space at its ends. -/
structure IsTrimmed (text name : String) : Prop where
  taken : ∃ front back, text.toList = front ++ name.toList ++ back ∧
    (∀ c ∈ front, isBlank c = true) ∧ ∀ c ∈ back, isBlank c = true
  first : ∀ c ∈ name.toList.head?, isBlank c = false
  last : ∀ c ∈ name.toList.getLast?, isBlank c = false

theorem toList_trimmed (text : String) :
    (trimmed text).toList = (text.toList.dropWhile isBlank).rdropWhile isBlank := by
  unfold trimmed
  rw [String.toList_ofList]
  rfl

/-- Trailing characters that are dropped anyway do not count. -/
theorem rdropWhile_append_of_all {characters back : List Char}
    (blank : ∀ c ∈ back, isBlank c = true) :
    (characters ++ back).rdropWhile isBlank = characters.rdropWhile isBlank := by
  unfold List.rdropWhile
  rw [List.reverse_append, List.dropWhile_append_of_pos]
  intro c member
  exact blank c (List.mem_reverse.mp member)

theorem IsTrimmed.eq_trimmed {text name : String} (isTrimmed : IsTrimmed text name) :
    name = trimmed text := by
  obtain ⟨⟨front, back, split, frontBlank, backBlank⟩, first, last⟩ := isTrimmed
  rw [← String.toList_inj, toList_trimmed, split, List.append_assoc,
    List.dropWhile_append_of_pos frontBlank]
  cases characters : name.toList with
  | nil =>
    rw [List.nil_append, List.dropWhile_eq_nil_iff.mpr backBlank]
    rfl
  | cons c rest =>
    rw [characters] at first last
    have kept : isBlank c = false := first c rfl
    have unchanged : (c :: rest).rdropWhile isBlank = c :: rest := by
      rw [List.rdropWhile_eq_self_iff]
      intro nonempty
      rw [last _ (List.getLast?_eq_getLast_of_ne_nil nonempty)]
      exact Bool.false_ne_true
    rw [List.cons_append, List.dropWhile_cons_of_neg (by rw [kept]; exact Bool.false_ne_true),
      ← List.cons_append, rdropWhile_append_of_all backBlank, unchanged]

/-! ### Targets -/

theorem Target.ofName?_eq_some_iff {name : String} {target : Target} :
    Target.ofName? name = some target ↔ target.name = name := by
  unfold Target.ofName?
  constructor
  · intro found
    have named := List.find?_some found
    exact of_decide_eq_true named
  · rintro rfl
    cases target <;> decide

theorem Target.name_injective : Function.Injective Target.name := by
  intro first second equal
  exact Option.some_inj.mp
    ((Target.ofName?_eq_some_iff.mpr rfl).symm.trans (Target.ofName?_eq_some_iff.mpr equal.symm))

theorem Target.name_ne_empty (target : Target) : target.name ≠ "" := by
  cases target <;> decide

/-- The target has the name. -/
inductive Target.Named : Target → String → Prop where
  | opset15 : Named .opset15 "opset15"
  | opset16 : Named .opset16 "opset16"
  | opset17 : Named .opset17 "opset17"
  | opset18 : Named .opset18 "opset18"

theorem Target.named_iff {target : Target} {name : String} :
    target.Named name ↔ target.name = name := by
  constructor
  · rintro ⟨⟩ <;> rfl
  · rintro rfl
    cases target <;> constructor

namespace Environment

variable {environment : Environment}

/-- The environment names the target: by no name at all or an empty one if the target is the latest, and
otherwise by its name, with white space around it or not. -/
def Names (environment : Environment) (target : Target) : Prop :=
  (environment.target = none ∧ target = .opset18) ∨
    ∃ text name, environment.target = some text ∧ IsTrimmed text name ∧
      ((name = "" ∧ target = .opset18) ∨ target.Named name)

/-- All readings of an environment see the same name. -/
theorem eq_of_isTrimmed {text name otherText otherName : String}
    (set : environment.target = some text) (isTrimmed : IsTrimmed text name)
    (otherSet : environment.target = some otherText) (otherTrimmed : IsTrimmed otherText otherName) :
    otherName = name := by
  obtain rfl : otherText = text := Option.some_inj.mp (otherSet.symm.trans set)
  exact otherTrimmed.eq_trimmed.trans isTrimmed.eq_trimmed.symm

theorem Names.unique {first second : Target} (isFirst : environment.Names first)
    (isSecond : environment.Names second) : first = second := by
  rcases isFirst with ⟨unset, rfl⟩ | ⟨text, name, set, isTrimmed, named⟩ <;>
    rcases isSecond with ⟨otherUnset, rfl⟩ | ⟨otherText, otherName, otherSet, otherTrimmed, otherNamed⟩
  · rfl
  · exact absurd (unset.symm.trans otherSet) (Option.some_ne_none _).symm
  · exact absurd (otherUnset.symm.trans set) (Option.some_ne_none _).symm
  · obtain rfl := eq_of_isTrimmed set isTrimmed otherSet otherTrimmed
    rw [Target.named_iff] at named otherNamed
    rcases named with ⟨rfl, rfl⟩ | rfl <;> rcases otherNamed with ⟨empty, rfl⟩ | same
    · rfl
    · exact absurd same (Target.name_ne_empty second)
    · exact absurd empty (Target.name_ne_empty first)
    · exact Target.name_injective same.symm

end Environment

end Pooling
