/-
This file settles that folding the ASCII letters is enough to read a padding mode, whatever a platform
does to the other letters when it brings a text to lower case. A platform maps every character by
itself or by its surroundings. What is known of it is that ASCII letters become their small forms, that
other ASCII characters stay, and that a character outside ASCII leaves something outside ASCII behind,
except for the Kelvin sign, which becomes the letter `k`. No mode has that letter in its name.
-/

import Mathlib.Tactic
import Pooling.PadType

namespace Pooling

/-! ### Lower-casing -/

/-- The character lies in ASCII. -/
def IsAscii (c : Char) : Prop :=
  c.toNat < 128

instance (c : Char) : Decidable (IsAscii c) :=
  inferInstanceAs (Decidable (c.toNat < 128))

/-- The characters may stand in lower case for the given one. -/
def IsLowerCaseOf (c : Char) (lowered : List Char) : Prop :=
  if IsAscii c then lowered = [c.toLower]
  else (∃ d ∈ lowered, ¬ IsAscii d) ∨ lowered = ['k']

/-- The function brings texts to lower case, character by character. -/
def IsLowerCasing (lower : String → String) : Prop :=
  ∀ text, ∃ pieces, List.Forall₂ IsLowerCaseOf text.toList pieces ∧
    (lower text).toList = pieces.flatten

/-! ### Characters -/

theorem toLower_of_not_isAscii {c : Char} (foreign : ¬ IsAscii c) : c.toLower = c := by
  unfold Char.toLower
  rw [dif_neg]
  rintro ⟨-, upper⟩
  have bound : c.toNat ≤ 90 := upper
  exact foreign (by unfold IsAscii; omega)

/-! ### Texts -/

theorem toList_toLower (text : String) : text.toLower.toList = text.toList.map Char.toLower :=
  String.toList_map

theorem flatten_of_isAscii {characters : List Char} {pieces : List (List Char)}
    (lowered : List.Forall₂ IsLowerCaseOf characters pieces)
    (ascii : ∀ c ∈ characters, IsAscii c) : pieces.flatten = characters.map Char.toLower := by
  induction lowered with
  | nil => rfl
  | cons head tail inductionHypothesis =>
    rw [IsLowerCaseOf, if_pos (ascii _ List.mem_cons_self)] at head
    rw [List.flatten_cons, List.map_cons, head,
      inductionHypothesis fun c member => ascii c (List.mem_cons_of_mem _ member)]
    rfl

/-- A character outside ASCII shows in the lower case of the text. -/
theorem exists_foreign_of_not_isAscii {characters : List Char} {pieces : List (List Char)}
    (lowered : List.Forall₂ IsLowerCaseOf characters pieces) {c : Char} (member : c ∈ characters)
    (foreign : ¬ IsAscii c) : ∃ d ∈ pieces.flatten, ¬ IsAscii d ∨ d = 'k' := by
  induction lowered with
  | nil => cases member
  | @cons first piece rest others head tail inductionHypothesis =>
    rw [List.flatten_cons]
    rcases List.mem_cons.mp member with rfl | later
    · rw [IsLowerCaseOf, if_neg foreign] at head
      rcases head with ⟨d, dMember, dForeign⟩ | kelvin
      · exact ⟨d, List.mem_append_left _ dMember, Or.inl dForeign⟩
      · exact ⟨'k', List.mem_append_left _ (kelvin ▸ List.mem_singleton_self 'k'), Or.inr rfl⟩
    · obtain ⟨d, dMember, property⟩ := inductionHypothesis later
      exact ⟨d, List.mem_append_right _ dMember, property⟩

/-- Folding the ASCII letters brings texts to lower case. -/
theorem isLowerCasing_toLower : IsLowerCasing String.toLower := by
  intro text
  refine ⟨text.toList.map fun c => [c.toLower], ?_, ?_⟩
  · rw [List.forall₂_map_right_iff, List.forall₂_same]
    intro c member
    unfold IsLowerCaseOf
    split
    · rfl
    · rename_i foreign
      rw [toLower_of_not_isAscii foreign]
      exact Or.inl ⟨c, List.mem_singleton_self c, foreign⟩
  · rw [toList_toLower, ← List.flatMap_def, ← List.map_eq_flatMap]

/-- A name in ASCII without the letter `k` is the lower case of the same texts on every platform. -/
theorem IsLowerCasing.eq_iff {lower : String → String} (lowerCasing : IsLowerCasing lower)
    {name : String} (plain : ∀ c ∈ name.toList, IsAscii c ∧ c ≠ 'k') (text : String) :
    lower text = name ↔ text.toLower = name := by
  obtain ⟨pieces, lowered, spelled⟩ := lowerCasing text
  rw [← String.toList_inj, ← String.toList_inj, spelled, toList_toLower]
  by_cases ascii : ∀ c ∈ text.toList, IsAscii c
  · rw [flatten_of_isAscii lowered ascii]
  · push Not at ascii
    obtain ⟨c, member, foreign⟩ := ascii
    constructor
    · intro equal
      obtain ⟨d, dMember, property⟩ := exists_foreign_of_not_isAscii lowered member foreign
      obtain ⟨dAscii, notKelvin⟩ := plain d (equal ▸ dMember)
      rcases property with dForeign | kelvin
      · exact absurd dAscii dForeign
      · exact absurd kelvin notKelvin
    · intro equal
      have kept : c ∈ text.toList.map Char.toLower :=
        List.mem_map.mpr ⟨c, member, toLower_of_not_isAscii foreign⟩
      exact absurd (plain c (equal ▸ kept)).1 foreign

/-! ### Padding modes -/

namespace PadType

theorem name_injective {first second : PadType} (equal : first.name = second.name) :
    first = second := by
  cases first <;> cases second <;> first | rfl | exact absurd equal (by decide)

theorem name_plain (padType : PadType) : ∀ c ∈ padType.name.toList, IsAscii c ∧ c ≠ 'k' := by
  have all : padType.name.toList.all (fun c => IsAscii c ∧ c ≠ 'k') = true := by
    cases padType <;> decide
  intro c member
  exact of_decide_eq_true (List.all_eq_true.mp all c member)

/-- The mode read from a text is the one whose name is the text in lower case. -/
theorem ofText?_eq_some_iff {lower : String → String} (lowerCasing : IsLowerCasing lower)
    {text : String} {padType : PadType} :
    ofText? text = some padType ↔ lower text = padType.name := by
  rw [lowerCasing.eq_iff padType.name_plain]
  unfold ofText?
  constructor
  · intro found
    have named := List.find?_some found
    exact (of_decide_eq_true named).symm
  · intro named
    rw [named]
    cases padType <;> rfl

end PadType

end Pooling
