/-
This file holds the catalogue of the operators against the program. Every operator has one entry; the values
that an entry declares for unset attributes are the ones they take; and every case comes out as stated on
every target it is about, whoever infers it first. A node that was not inferred before is computed from its
operator, its input, its attributes and the target alone, so it is enough to go through the table once.
-/

import Mathlib.Data.List.Infix
import Mathlib.Data.List.Nodup
import Pooling.Catalog
import Pooling.Proofs.Calls

namespace Pooling

/-! ### Entries -/

/-- What the operation does about padded positions, if that is for it to choose. -/
def Variant.excludePadding? : Variant → Option Bool
  | avgPool excludePadding => some excludePadding
  | l2Pool => none
  | maxPool => none

namespace Catalog

variable {entry : CatalogEntry}

/-- Every operator has exactly one entry. -/
theorem existsUnique_entry (operator : Operator) :
    ∃! entry, entry ∈ entries ∧ entry.operator = operator := by
  have alone : (entries.map CatalogEntry.operator).Nodup := by decide
  have listed : operator ∈ entries.map CatalogEntry.operator := by cases operator <;> decide
  obtain ⟨entry, member, same⟩ := List.mem_map.mp listed
  refine ⟨entry, ⟨member, same⟩, ?_⟩
  rintro other ⟨otherMember, otherSame⟩
  exact List.inj_on_of_nodup_map alone otherMember member (otherSame.trans same.symm)

theorem find?_eq_some_iff {name : String} :
    find? name = some entry ↔ entry ∈ entries ∧ entry.operator.name = name := by
  have listedFound : ∀ other ∈ entries, find? other.operator.name = some other := by decide +kernel
  constructor
  · intro found
    have named := List.find?_some found
    exact ⟨List.mem_of_find?_eq_some found, of_decide_eq_true named⟩
  · rintro ⟨listed, rfl⟩
    exact listedFound entry listed

/-- What an entry declares for unset attributes is what they become, whatever else a node of the operator
has and whatever its input. -/
theorem declared_eq_resolved (listed : entry ∈ entries) {node : Node}
    (operator : node.operator = entry.operator) :
    (node.attributes.ceilMode = none → node.resolve.parameters.ceilMode = entry.ceilMode) ∧
      (node.attributes.excludePadding = none →
        node.resolve.variant.excludePadding? = entry.excludePadding) := by
  have declared : ∀ other ∈ entries, other.ceilMode = false ∧
      other.excludePadding = if other.operator = .avgPool then some false else none := by
    decide +kernel
  obtain ⟨ceilMode, excludePadding⟩ := declared entry listed
  constructor
  · intro unset
    show node.attributes.ceilMode.getD false = _
    rw [unset, ceilMode]
    rfl
  · intro unset
    show (node.operator.variant node.attributes).excludePadding? = _
    rw [excludePadding, ← operator]
    cases node.operator with
    | avgPool =>
      show some (node.attributes.excludePadding.getD false) = some false
      rw [unset]
      rfl
    | l2Pool => rfl
    | maxPool => rfl

end Catalog

/-! ### Cases -/

/-- The case is about the target: it is its own, or it has none and the operator compiles for the target. -/
def CatalogCase.IsAbout (sample : CatalogCase) (entry : CatalogEntry) (target : Target) : Prop :=
  sample.target = some target ∨
    (sample.target = none ∧ 0 ≤ Target.compare target.name entry.minTarget.name)

/-- The result is the stated shape with the element type that came in, or an error of the operator with the
stated words in its text. -/
def Expectation.MetBy (elementType : String) :
    Expectation → Except Failure TensorType → Prop
  | .output shape, result => result = .ok ⟨elementType, shape⟩
  | .refusal fragment, .error (.parameter error) => fragment.toList <:+: error.message.toList
  | .refusal _, _ => False

instance (elementType : String) (expectation : Expectation)
    (result : Except Failure TensorType) : Decidable (expectation.MetBy elementType result) :=
  match expectation, result with
  | .output shape, result => inferInstanceAs (Decidable (result = .ok ⟨elementType, shape⟩))
  | .refusal fragment, .error (.parameter error) =>
    inferInstanceAs (Decidable (fragment.toList <:+: error.message.toList))
  | .refusal _, .error (.configuration _) => isFalse not_false
  | .refusal _, .ok _ => isFalse not_false

/-- The node of a case, with the number it gets. -/
def CatalogCase.node (sample : CatalogCase) (entry : CatalogEntry) (id : ℕ) : Node :=
  Node.create id entry.operator sample.input sample.attributes

/-- What a node that was never inferred comes to on a target. -/
def Node.firstResult (node : Node) (target : String) : Except Failure TensorType :=
  (node.explanation target).mapError Failure.parameter |>.map Explanation.outputType

theorem Node.infer_of_uncached {node : Node} {configuration : Configuration} {options : Options}
    (uncached : node.outputType = none) :
    (node.infer configuration options).1.result =
      node.firstResult (options.targetUnder configuration) := by
  have missing : node.cached? (options.targetUnder configuration) = none :=
    cached?_eq_none_iff.mpr (Or.inl uncached)
  unfold firstResult
  cases computed : node.explanation (options.targetUnder configuration) with
  | error error => exact (infer_of_error missing computed).1
  | ok explanation => exact (infer_of_explanation missing computed).1

namespace Catalog

variable {entry : CatalogEntry} {sample : CatalogCase} {target : Target}

/-- A case with a target of its own has one that the operator compiles for. -/
theorem own_target_supported (listed : entry ∈ entries) (sampled : sample ∈ entry.cases)
    (own : sample.target = some target) :
    0 ≤ Target.compare target.name entry.minTarget.name := by
  have supported : ∀ other ∈ entries, ∀ sample ∈ other.cases, ∀ target ∈ Target.all,
      sample.target = some target → 0 ≤ Target.compare target.name other.minTarget.name := by
    decide +kernel
  have known : target ∈ Target.all := by cases target <;> decide
  exact supported entry listed sample sampled target known own

/-- The operators compile for every target, so a case without one is about all of them. -/
theorem table_met : ∀ entry ∈ entries, ∀ sample ∈ entry.cases, ∀ target ∈ Target.all,
    (sample.target = some target ∨ sample.target = none) →
      sample.expectation.MetBy sample.input.elementType
        ((sample.node entry 0).firstResult target.name) := by
  decide +kernel

/-- Every case comes out as stated on every target it is about, under any configuration and whatever number
its node has. -/
theorem case_comes_out (listed : entry ∈ entries) (sampled : sample ∈ entry.cases)
    (about : sample.IsAbout entry target) (id : ℕ) (configuration : Configuration)
    {options : Options} (chosen : options.target = some target.name) :
    sample.expectation.MetBy sample.input.elementType
      ((sample.node entry id).infer configuration options).1.result := by
  have known : target ∈ Target.all := by cases target <;> decide
  have isTarget : options.targetUnder configuration = target.name := by
    unfold Options.targetUnder
    rw [chosen]
    rfl
  rw [Node.infer_of_uncached rfl, isTarget]
  exact table_met entry listed sample sampled target known (about.imp_right And.left)

end Catalog

end Pooling
