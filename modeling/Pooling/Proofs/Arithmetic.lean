/-
This file reads the operations on numbers as operations on the whole numbers they hold. As long as the
result stays within `2 ^ 53` no operation rounds, and the whole parts of a quotient are those of the
exact quotient. A number that holds zero may be either of the two zeros; where the sign of a result can
be told, the result is given as a number and not only by what it holds.
-/

import Pooling.Binary64.Basic
import Pooling.Proofs.Rounding

namespace Pooling.Binary64

/-! ### Values of results -/

/-- A value that needs no rounding becomes the number with that value. -/
theorem ofRat_eq_finite {q : ℚ} (representable : Representable q) :
    ofRat q = finite q representable := by
  have fixed := representable.1
  rw [ofRat, round, dif_pos (by rwa [fixed])]
  have noSign : ¬ ((decide (q < 0) && decide (nearest q = 0)) = true) := by
    rw [fixed, Bool.and_eq_true, decide_eq_true_iff, decide_eq_true_iff]
    rintro ⟨negative, zero⟩
    exact negative.ne zero
  rw [if_neg noSign]
  simp only [fixed]

/-- A rounded value is the value of the number nearest to it, or the number has none. -/
theorem toRat?_of_round {negative : Bool} {q p : ℚ}
    (value : (round negative q).toRat? = some p) : p = nearest q := by
  unfold round at value
  split at value
  · split at value
    · rename_i signed
      rw [Bool.and_eq_true, decide_eq_true_iff] at signed
      rw [signed.2]
      exact (Option.some_inj.mp value).symm
    · exact (Option.some_inj.mp value).symm
  · cases value

theorem toRat?_ofRat {q p : ℚ} (value : (ofRat q).toRat? = some p) : p = nearest q :=
  toRat?_of_round value

theorem toRat?_round {negative : Bool} {q : ℚ} (representable : Representable (nearest q)) :
    (round negative q).toRat? = some (nearest q) := by
  rw [round, dif_pos representable]
  split
  · rename_i signed
    rw [Bool.and_eq_true, decide_eq_true_iff] at signed
    rw [signed.2]
    rfl
  · rfl

/-- What has a value is the negative zero or a finite number. -/
theorem eq_of_toRat? {x : Binary64} {p : ℚ} (value : x.toRat? = some p) :
    (x = negativeZero ∧ p = 0) ∨ ∃ representable, x = finite p representable := by
  cases x with
  | nan => cases value
  | infinity negative => cases value
  | negativeZero => exact Or.inl ⟨rfl, (Option.some_inj.mp value).symm⟩
  | finite held representable =>
    obtain rfl : held = p := Option.some_inj.mp value
    exact Or.inr ⟨representable, rfl⟩

theorem nearest_of_toRat? {x : Binary64} {p : ℚ} (value : x.toRat? = some p) : nearest p = p := by
  rcases eq_of_toRat? value with ⟨-, rfl⟩ | ⟨representable, -⟩
  · exact representable_zero.1
  · exact representable.1

theorem ne_nan {x : Binary64} {p : ℚ} (value : x.toRat? = some p) : x ≠ nan := by
  rintro rfl
  cases value

theorem toRat?_neg {x : Binary64} {p : ℚ} (value : x.toRat? = some p) :
    (-x).toRat? = some (-p) := by
  show x.neg.toRat? = some (-p)
  rcases eq_of_toRat? value with ⟨rfl, rfl⟩ | ⟨representable, rfl⟩
  · rfl
  · simp only [neg]
    split
    · rename_i zero
      rw [zero]
      rfl
    · rw [ofRat_eq_finite (representable_neg representable)]
      rfl

theorem toRat?_add {x y : Binary64} {p q : ℚ} (first : x.toRat? = some p)
    (second : y.toRat? = some q) (representable : Representable (p + q)) :
    (x + y).toRat? = some (p + q) := by
  show (x.add y).toRat? = some (p + q)
  rcases eq_of_toRat? first with ⟨rfl, rfl⟩ | ⟨firstRepresentable, rfl⟩ <;>
    rcases eq_of_toRat? second with ⟨rfl, rfl⟩ | ⟨secondRepresentable, rfl⟩ <;>
    simp only [add, toRat?, zero_add, add_zero]
  rw [ofRat_eq_finite representable]

/-- Only two negative zeros add up to one. -/
theorem add_ne_negativeZero {x y : Binary64} {p q : ℚ} (first : x.toRat? = some p)
    (second : y.toRat? = some q) (signed : x ≠ negativeZero ∨ y ≠ negativeZero)
    (representable : Representable (p + q)) : x + y ≠ negativeZero := by
  show x.add y ≠ negativeZero
  rcases eq_of_toRat? first with ⟨rfl, rfl⟩ | ⟨firstRepresentable, rfl⟩ <;>
    rcases eq_of_toRat? second with ⟨rfl, rfl⟩ | ⟨secondRepresentable, rfl⟩
  · simp at signed
  · exact Binary64.noConfusion
  · exact Binary64.noConfusion
  · simp only [add, ofRat_eq_finite representable]
    exact Binary64.noConfusion

theorem toRat?_signedZero (negative : Bool) : (signedZero negative).toRat? = some 0 := by
  cases negative <;> rfl

theorem toRat?_mul {x y : Binary64} {p q : ℚ} (first : x.toRat? = some p)
    (second : y.toRat? = some q) (representable : Representable (p * q)) :
    (x * y).toRat? = some (p * q) := by
  show (x.mul y).toRat? = some (p * q)
  rcases eq_of_toRat? first with ⟨rfl, rfl⟩ | ⟨firstRepresentable, rfl⟩ <;>
    rcases eq_of_toRat? second with ⟨rfl, rfl⟩ | ⟨secondRepresentable, rfl⟩
  · rw [zero_mul]
    exact toRat?_signedZero _
  · rw [zero_mul]
    exact toRat?_signedZero _
  · rw [mul_zero]
    exact toRat?_signedZero _
  · unfold mul
    dsimp only
    rw [toRat?_round (by rwa [representable.1]), representable.1]

theorem div_eq_round {x y : Binary64} {p q : ℚ} (first : x.toRat? = some p)
    (second : y.toRat? = some q) (nonzero : q ≠ 0) :
    x / y = round (x.isNegative != y.isNegative) (p / q) := by
  show x.div y = _
  rw [div, first, second]
  dsimp only
  rw [if_neg nonzero]

/-! ### Signs -/

theorem ne_negativeZero_of_unsigned {x : Binary64} (unsigned : x.isNegative = false) :
    x ≠ negativeZero := by
  rintro rfl
  cases unsigned

theorem ofInt_ne_negativeZero (n : ℤ) : ofInt n ≠ negativeZero := by
  unfold ofInt ofRat round
  split
  · split
    · rename_i signed
      rw [Bool.and_eq_true, decide_eq_true_iff, decide_eq_true_iff] at signed
      have negative : n < 0 := by exact_mod_cast signed.1
      have atLeastOne : (1 : ℚ) ≤ |(n : ℚ)| := by exact_mod_cast Int.one_le_abs negative.ne
      exact absurd signed.2 (nearest_ne_zero atLeastOne)
    · exact Binary64.noConfusion
  · exact Binary64.noConfusion

theorem round_false_unsigned {q : ℚ} (nonnegative : 0 ≤ q) : (round false q).isNegative = false := by
  rw [round, Bool.false_and]
  split
  · exact decide_eq_false (nearest_nonneg nonnegative).not_gt
  · exact decide_eq_false nonnegative.not_gt

theorem round_false_ne_negativeZero (q : ℚ) : round false q ≠ negativeZero := by
  unfold round
  split <;> simp

theorem ofInt_unsigned {n : ℤ} (nonnegative : 0 ≤ n) : (ofInt n).isNegative = false := by
  have rational : (0 : ℚ) ≤ n := by exact_mod_cast nonnegative
  rw [ofInt, ofRat, decide_eq_false rational.not_gt]
  exact round_false_unsigned rational

theorem floor_ne_negativeZero {x : Binary64} (signed : x ≠ negativeZero) : x.floor ≠ negativeZero := by
  cases x with
  | nan => exact signed
  | infinity negative => exact signed
  | negativeZero => exact signed
  | finite value representable => exact ofInt_ne_negativeZero _

theorem ceil_ne_negativeZero {x : Binary64} (unsigned : x.isNegative = false) :
    x.ceil ≠ negativeZero := by
  cases x with
  | nan => exact Binary64.noConfusion
  | infinity negative => exact Binary64.noConfusion
  | negativeZero => cases unsigned
  | finite value representable =>
    have nonnegative : decide (value < 0) = false := unsigned
    simp only [ceil, nonnegative]
    exact round_false_ne_negativeZero _

/-! ### Comparisons -/

theorem less_iff {x y : Binary64} {p q : ℚ} (first : x.toRat? = some p) (second : y.toRat? = some q) :
    x.less y = true ↔ p < q := by
  rcases eq_of_toRat? first with ⟨rfl, rfl⟩ | ⟨firstRepresentable, rfl⟩ <;>
    rcases eq_of_toRat? second with ⟨rfl, rfl⟩ | ⟨secondRepresentable, rfl⟩ <;>
    simp only [less, toRat?, decide_eq_true_iff]

/-- A number has the same value as a finite one exactly if that is its value. -/
theorem sameValue_iff {x y : Binary64} {q : ℚ} (second : y.toRat? = some q) :
    x.sameValue y = true ↔ x.toRat? = some q := by
  rcases eq_of_toRat? second with ⟨rfl, rfl⟩ | ⟨secondRepresentable, rfl⟩ <;>
    cases x <;> simp [sameValue, toRat?]

theorem atMost_iff {x y : Binary64} {p q : ℚ} (first : x.toRat? = some p)
    (second : y.toRat? = some q) : x.atMost y = true ↔ p ≤ q := by
  rw [atMost, Bool.or_eq_true, less_iff first second, sameValue_iff second, first, Option.some_inj,
    le_iff_lt_or_eq]

theorem isInteger_iff {x : Binary64} :
    x.isInteger = true ↔ ∃ n : ℤ, x.toRat? = some (n : ℚ) := by
  unfold isInteger
  cases value : x.toRat? with
  | none => simp
  | some q =>
    rw [decide_eq_true_iff]
    constructor
    · intro whole
      exact ⟨q.num, by rw [Rat.coe_int_num_of_den_eq_one whole]⟩
    · rintro ⟨n, equal⟩
      rw [Option.some_inj.mp equal]
      exact Rat.den_intCast n

/-! ### Whole numbers -/

/-- The number holds the whole number `n`. The number may be either zero if `n` is zero. -/
def Holds (x : Binary64) (n : ℤ) : Prop :=
  x.toRat? = some (n : ℚ)

theorem Holds.unique {x : Binary64} {m n : ℤ} (first : x.Holds m) (second : x.Holds n) : m = n := by
  have equal : (m : ℚ) = n := Option.some_inj.mp (first.symm.trans second)
  exact_mod_cast equal

theorem holds_ofInt {n : ℤ} (small : |n| ≤ 2 ^ 53) : (ofInt n).Holds n := by
  rw [ofInt, ofRat_eq_finite (representable_intCast small)]
  rfl

/-- What a number holds determines it up to the sign of zero. -/
theorem Holds.eq_ofInt {x : Binary64} {n : ℤ} (held : x.Holds n) (signed : x ≠ negativeZero) :
    x = ofInt n := by
  rcases eq_of_toRat? held with ⟨zero, -⟩ | ⟨representable, rfl⟩
  · exact absurd zero signed
  · exact (ofRat_eq_finite representable).symm

theorem ofNat_eq_ofInt (n : ℕ) : ofNat n = ofInt n := by
  rw [ofNat, ofInt, Int.cast_natCast]

theorem holds_ofNat {n : ℕ} (small : n ≤ 2 ^ 53) : (ofNat n).Holds n := by
  rw [ofNat_eq_ofInt]
  refine holds_ofInt ?_
  rw [abs_of_nonneg (Int.natCast_nonneg n)]
  exact_mod_cast small

theorem holds_zero : (0 : Binary64).Holds 0 :=
  holds_ofNat (n := 0) (by norm_num)

theorem holds_one : (1 : Binary64).Holds 1 :=
  holds_ofNat (n := 1) (by norm_num)

theorem one_ne_negativeZero : (1 : Binary64) ≠ negativeZero := by
  rw [show (1 : Binary64) = ofInt 1 from ofNat_eq_ofInt 1]
  exact ofInt_ne_negativeZero 1

theorem holds_two : (2 : Binary64).Holds 2 :=
  holds_ofNat (n := 2) (by norm_num)

namespace Holds

variable {x y : Binary64} {m n : ℤ}

theorem neg (first : x.Holds m) : (-x).Holds (-m) := by
  rw [Holds, toRat?_neg first, Int.cast_neg]

theorem add (first : x.Holds m) (second : y.Holds n) (small : |m + n| ≤ 2 ^ 53) :
    (x + y).Holds (m + n) := by
  have representable := representable_intCast small
  unfold Holds
  rw [Int.cast_add] at representable ⊢
  exact toRat?_add first second representable

theorem add_eq (first : x.Holds m) (second : y.Holds n)
    (signed : x ≠ negativeZero ∨ y ≠ negativeZero) (small : |m + n| ≤ 2 ^ 53) :
    x + y = ofInt (m + n) := by
  have representable := representable_intCast small
  rw [Int.cast_add] at representable
  exact (add first second small).eq_ofInt (add_ne_negativeZero first second signed representable)

theorem sub (first : x.Holds m) (second : y.Holds n) (small : |m - n| ≤ 2 ^ 53) :
    (x - y).Holds (m - n) :=
  add first (neg second) small

theorem sub_eq (first : x.Holds m) (second : y.Holds n) (signed : x ≠ negativeZero)
    (small : |m - n| ≤ 2 ^ 53) : x - y = ofInt (m - n) :=
  add_eq first (neg second) (Or.inl signed) small

theorem mul (first : x.Holds m) (second : y.Holds n) (small : |m * n| ≤ 2 ^ 53) :
    (x * y).Holds (m * n) := by
  have representable := representable_intCast small
  unfold Holds
  rw [Int.cast_mul] at representable ⊢
  exact toRat?_mul first second representable

/-- The greater of a number and the positive zero is never the negative zero. -/
theorem maximum_zero (held : x.Holds m) : x.maximum 0 = ofInt (max m 0) := by
  have below : x.less 0 = true ↔ m < 0 := (less_iff held holds_zero).trans Int.cast_lt
  have above : less 0 x = true ↔ 0 < m := (less_iff holds_zero held).trans Int.cast_lt
  rw [maximum, decide_eq_false (ne_nan held), decide_eq_false (ne_nan holds_zero), Bool.or_self,
    if_neg Bool.false_ne_true]
  split
  · rename_i less
    rw [max_eq_right (below.mp less).le]
    exact ofNat_eq_ofInt 0
  rename_i notBelow
  split
  · rename_i greater
    rw [max_eq_left (above.mp greater).le]
    refine held.eq_ofInt ?_
    rintro rfl
    have zero : m = 0 := held.unique rfl
    exact absurd zero (above.mp greater).ne'
  · rename_i notAbove
    have zero : m = 0 :=
      le_antisymm (not_lt.mp (above.not.mp notAbove)) (not_lt.mp (below.not.mp notBelow))
    rw [zero, max_self]
    split
    · exact ofNat_eq_ofInt 0
    · rename_i signed
      exact zero ▸ held.eq_ofInt signed

/-! ### Whole parts of quotients -/

theorem toRat?_div (first : x.Holds m) (second : y.Holds n) (positive : 0 < n)
    (divisorSmall : n ≤ 2 ^ 53) (dividendSmall : |m| < 2 ^ 53) :
    (x / y).toRat? = some (nearest (m / n)) := by
  have nonzero : (n : ℚ) ≠ 0 := by exact_mod_cast positive.ne'
  rw [div_eq_round first second nonzero]
  exact toRat?_round (representable_nearest_div positive divisorSmall dividendSmall)

theorem floor_div (first : x.Holds m) (second : y.Holds n) (positive : 0 < n)
    (divisorSmall : n ≤ 2 ^ 53) (dividendSmall : |m| < 2 ^ 53) :
    (x / y).floor.Holds ⌊(m / n : ℚ)⌋ := by
  have value := toRat?_div first second positive divisorSmall dividendSmall
  have unchanged := floor_nearest_div positive divisorSmall dividendSmall
  rcases eq_of_toRat? value with ⟨zero, vanishes⟩ | ⟨representable, equal⟩
  · rw [zero, ← unchanged, vanishes, Int.floor_zero]
    rfl
  · rw [equal]
    simp only [floor, floor_eq_floor, unchanged]
    exact holds_ofInt (abs_floor_le (abs_div_lt positive dividendSmall))

theorem ceil_div (first : x.Holds m) (second : y.Holds n) (positive : 0 < n)
    (divisorSmall : n ≤ 2 ^ 53) (dividendSmall : |m| < 2 ^ 53) :
    (x / y).ceil.Holds ⌈(m / n : ℚ)⌉ := by
  have value := toRat?_div first second positive divisorSmall dividendSmall
  have unchanged := ceil_nearest_div positive divisorSmall dividendSmall
  rcases eq_of_toRat? value with ⟨zero, vanishes⟩ | ⟨representable, equal⟩
  · rw [zero, ← unchanged, vanishes, Int.ceil_zero]
    rfl
  · have whole := representable_intCast (abs_ceil_le (abs_div_lt positive dividendSmall))
    rw [equal]
    unfold Holds
    simp only [ceil, ceil_eq_ceil, unchanged]
    rw [toRat?_round (by rwa [whole.1]), whole.1]

/-- A quotient of numbers without the negative sign has none either. -/
theorem div_unsigned (first : x.Holds m) (second : y.Holds n) (positive : 0 < n)
    (nonnegative : 0 ≤ m) (unsigned : x.isNegative = false) : (x / y).isNegative = false := by
  have positiveRational : (0 : ℚ) < n := by exact_mod_cast positive
  have divisorUnsigned : y.isNegative = false := by
    rcases eq_of_toRat? second with ⟨rfl, vanishes⟩ | ⟨representable, rfl⟩
    · exact absurd vanishes positiveRational.ne'
    · exact decide_eq_false positiveRational.not_gt
  rw [div_eq_round first second positiveRational.ne', unsigned, divisorUnsigned]
  exact round_false_unsigned (div_nonneg (by exact_mod_cast nonnegative) positiveRational.le)

end Holds

end Pooling.Binary64
