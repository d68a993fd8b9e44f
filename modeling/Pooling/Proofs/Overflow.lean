/-
This file settles what becomes of the answers when numbers grow towards the end of the format. Counting
windows on a padded axis that has a finite extent cannot overflow any more, for the kernel is taken off
and the rest is divided by a stride of at least one. So an output extent is a whole number exactly if the
padded extent is finite, and the amounts of a `same` mode are exactly if the place where the last window
ends is.
-/

import Pooling.Catalog
import Pooling.Proofs.ExplicitPadding
import Pooling.Proofs.FiniteResults

namespace Pooling

open Binary64

/-! ### Counting windows -/

section Windows

variable {extent kernel stride before after : Binary64} {K S : ℤ}

/-- On a padded axis of finite extent, counting windows does not overflow. -/
theorem isFinite_windowCount_iff (padded : (extent + (before + after)).IsNonneg)
    (kernelHeld : kernel.Holds K) (strideHeld : stride.Holds S) (kernelPos : 1 ≤ K)
    (stridePos : 1 ≤ S) (ceilMode : Bool) :
    (windowCount extent kernel stride before after ceilMode).IsFinite ↔
      (extent + (before + after)).IsFinite := by
  have kernelNonneg : (0 : ℚ) ≤ K := by exact_mod_cast zero_le_one.trans kernelPos
  have strideRational : (1 : ℚ) ≤ S := by exact_mod_cast stridePos
  have quotient : ((extent + (before + after) - kernel) / stride).IsFinite ↔
      (extent + (before + after)).IsFinite :=
    (isFinite_div_iff strideHeld strideRational).trans
      (isFinite_sub_iff padded kernelHeld kernelNonneg)
  unfold windowCount
  dsimp only
  split
  · split
    · rw [isFinite_sub_one_iff, isFinite_add_one_iff, isFinite_ceil_iff, quotient]
    · rw [isFinite_add_one_iff, isFinite_ceil_iff, quotient]
  · rw [isFinite_add_one_iff, isFinite_floor_iff, quotient]

/-- A number of windows is whole if it has a value. -/
theorem windowCount_isWhole (extent kernel stride before after : Binary64) (ceilMode : Bool) :
    (windowCount extent kernel stride before after ceilMode).IsWhole := by
  have one : (1 : Binary64).IsWhole := IsWhole.of_holds holds_one
  unfold windowCount
  dsimp only
  split
  · split
    · exact ((IsWhole.ceil _).add one).sub one
    · exact (IsWhole.ceil _).add one
  · exact (IsWhole.floor _).add one

end Windows

/-! ### The total of a `same` mode -/

/-- Where the last of `⌈extent / stride⌉` windows ends, as it is computed. -/
def sameEnd (extent kernel stride : Binary64) : Binary64 :=
  ((extent / stride).ceil - 1) * stride + kernel

section SameEnd

variable {extent kernel stride : Binary64} {D K S : ℤ}

/-- On an empty axis the last window starts one stride in front of the axis. -/
theorem sameStart_of_empty (extentHeld : extent.Holds 0) (strideHeld : stride.Holds S)
    (stridePos : 1 ≤ S) : (((extent / stride).ceil - 1) * stride).Holds (-S) := by
  have nonzero : (S : ℚ) ≠ 0 := by exact_mod_cast (zero_lt_one.trans_le stridePos).ne'
  have zeroNear (q : ℚ) : |(0 : ℚ)| ≤ |q| + 1 := by
    rw [abs_zero]
    positivity
  have quotient : (extent / stride).toRat? = some 0 := by
    have value := (rounds_div extentHeld strideHeld nonzero).toRat?_of_le representable_zero
      (by rw [Int.cast_zero, zero_div]; exact zeroNear 0)
    rwa [Int.cast_zero, zero_div, representable_zero.1] at value
  have windows : (extent / stride).ceil.Holds 0 := by
    have value := (rounds_ceil quotient).toRat?_of_le representable_zero
      (by rw [Int.ceil_zero, Int.cast_zero]; exact zeroNear 0)
    rwa [Int.ceil_zero, Int.cast_zero, representable_zero.1] at value
  have previous : ((extent / stride).ceil - 1).Holds (-1) :=
    windows.sub holds_one (by norm_num)
  have representable := representable_neg (representable_of_toRat? strideHeld)
  have start := rounds_mul previous strideHeld
  rw [Int.cast_neg, Int.cast_one, neg_one_mul] at start
  have value := start.toRat?_of_le representable (le_add_of_nonneg_right zero_le_one)
  rwa [representable.1, ← Int.cast_neg] at value

/-- On any other axis the quotient is positive, and rounding it changes it little. -/
theorem sameQuotient_of_pos (extentHeld : extent.Holds D) (strideHeld : stride.Holds S)
    (extentPos : 1 ≤ D) (stridePos : 1 ≤ S) :
    ∃ r, (extent / stride).toRat? = some r ∧ 0 < r ∧ (D ≤ S → r ≤ 1) ∧
      (S ≤ D → r ≤ 2 * (D / S)) := by
  have extentRational : (1 : ℚ) ≤ D := by exact_mod_cast extentPos
  have strideRational : (1 : ℚ) ≤ S := by exact_mod_cast stridePos
  have strideRationalPos : (0 : ℚ) < S := zero_lt_one.trans_le strideRational
  obtain ⟨r, quotient⟩ := (isFinite_div_iff strideHeld strideRational).mpr ⟨D, extentHeld⟩
  obtain rfl := (rounds_div extentHeld strideHeld strideRationalPos.ne').eq_nearest quotient
  refine ⟨_, quotient,
    nearest_div_pos extentRational strideRationalPos (representable_of_toRat? strideHeld),
    fun single => ?_, fun several => ?_⟩
  · refine nearest_le zero_le_one nearest_one ?_
    exact (div_le_one strideRationalPos).mpr (by exact_mod_cast single)
  · refine (nearest_bounds ?_).2
    exact (one_le_div strideRationalPos).mpr (by exact_mod_cast several)

/-- So there is at least one window, and there are not many more than the exact quotient says. -/
theorem sameWindows_of_pos (extentHeld : extent.Holds D) (strideHeld : stride.Holds S)
    (extentPos : 1 ≤ D) (stridePos : 1 ≤ S) :
    ∃ c, (extent / stride).ceil.toRat? = some c ∧ 1 ≤ c ∧ (D ≤ S → c ≤ 1) ∧
      (S ≤ D → c ≤ 8 * (D / S)) := by
  obtain ⟨r, quotient, positive, single, several⟩ :=
    sameQuotient_of_pos extentHeld strideHeld extentPos stridePos
  obtain ⟨c, windows⟩ := isFinite_ceil_iff.mpr ⟨r, quotient⟩
  have rounded := (rounds_ceil quotient).eq_nearest windows
  have ceilPos : (1 : ℚ) ≤ ⌈r⌉ := by exact_mod_cast Int.ceil_pos.mpr positive
  refine ⟨c, windows, ?_, fun narrow => ?_, fun wide => ?_⟩
  · have windowsPos : 0 < c := by
      rw [rounded]
      exact nearest_pos ((zpow_lt_one_of_neg₀ one_lt_two (by norm_num)).trans_le ceilPos)
    obtain ⟨n, rfl⟩ := IsWhole.ceil (extent / stride) c windows
    exact_mod_cast (show 0 < n from by exact_mod_cast windowsPos)
  · rw [rounded]
    refine nearest_le zero_le_one nearest_one ?_
    exact_mod_cast Int.ceil_le.mpr ((single narrow).trans_eq Int.cast_one.symm)
  · have strideRational : (0 : ℚ) < S := by exact_mod_cast zero_lt_one.trans_le stridePos
    have exactPos : (1 : ℚ) ≤ D / S := (one_le_div strideRational).mpr (by exact_mod_cast wide)
    have quotientLe := several wide
    have ceilLe : (⌈r⌉ : ℚ) ≤ r + 1 := (Int.ceil_lt_add_one r).le
    have windowsLe := (nearest_bounds ceilPos).2
    rw [rounded]
    linarith

/-- The last window then starts not far behind the end of the axis, up to the rounding of the start. -/
theorem windowsBefore_of_pos (extentHeld : extent.Holds D) (strideHeld : stride.Holds S)
    (extentPos : 1 ≤ D) (stridePos : 1 ≤ S) :
    ∃ m, ((extent / stride).ceil - 1).toRat? = some m ∧ 0 ≤ m ∧ m * S ≤ 8 * D := by
  have strideRational : (0 : ℚ) < S := by exact_mod_cast zero_lt_one.trans_le stridePos
  obtain ⟨c, windows, windowsPos, single, several⟩ :=
    sameWindows_of_pos extentHeld strideHeld extentPos stridePos
  obtain ⟨m, previous⟩ := isFinite_sub_one_iff.mpr ⟨c, windows⟩
  have rounds := rounds_sub windows holds_one
  rw [Int.cast_one] at rounds
  have rounded := rounds.eq_nearest previous
  refine ⟨m, previous, rounded ▸ nearest_nonneg (sub_nonneg.mpr windowsPos), ?_⟩
  rcases le_total D S with narrow | wide
  · have none : m ≤ 0 := rounded ▸ nearest_nonpos (sub_nonpos.mpr (single narrow))
    have start := mul_nonpos_of_nonpos_of_nonneg none strideRational.le
    have extentRational : (0 : ℚ) ≤ D := by exact_mod_cast zero_le_one.trans extentPos
    linarith
  · have fewer : m ≤ c := by
      rw [rounded]
      exact nearest_le (zero_le_one.trans windowsPos) (nearest_of_toRat? windows) (by linarith)
    calc m * S ≤ 8 * (D / S) * S := by
          gcongr
          exact fewer.trans (several wide)
      _ = 8 * D := by field_simp

/-- The last window then starts within the axis, unless its start overflows. -/
theorem sameStart_of_pos (extentHeld : extent.Holds D) (strideHeld : stride.Holds S)
    (extentPos : 1 ≤ D) (stridePos : 1 ≤ S) :
    ((extent / stride).ceil - 1) * stride = infinity false ∨
      ∃ start, 0 ≤ start ∧ (((extent / stride).ceil - 1) * stride).toRat? = some start := by
  have strideNonneg : (0 : ℚ) ≤ S := by exact_mod_cast zero_le_one.trans stridePos
  obtain ⟨m, previous, nonnegative, -⟩ :=
    windowsBefore_of_pos extentHeld strideHeld extentPos stridePos
  exact (rounds_mul previous strideHeld).cases_of_nonneg (mul_nonneg nonnegative strideNonneg)

theorem sameEnd_of_empty (extentHeld : extent.Holds 0) (kernelHeld : kernel.Holds K)
    (strideHeld : stride.Holds S) (kernelPos : 1 ≤ K) (stridePos : 1 ≤ S) :
    (sameEnd extent kernel stride).IsFinite := by
  have reached := rounds_add (sameStart_of_empty extentHeld strideHeld stridePos) kernelHeld
  rw [Int.cast_neg, neg_add_eq_sub] at reached
  exact reached.isFinite_of_difference (representable_of_toRat? kernelHeld)
    (representable_of_toRat? strideHeld) (by exact_mod_cast zero_le_one.trans kernelPos)
    (by exact_mod_cast zero_le_one.trans stridePos)

/-- The place where the last window ends is finite, and so is its distance from the end of the axis; or
it overflows. -/
theorem sameEnd_cases (extentHeld : extent.Holds D) (kernelHeld : kernel.Holds K)
    (strideHeld : stride.Holds S) (valid : ValidAxis D K S) :
    sameEnd extent kernel stride = infinity false ∨
      (sameEnd extent kernel stride).IsFinite ∧ (sameEnd extent kernel stride - extent).IsFinite := by
  obtain ⟨extentNonneg, kernelPos, stridePos⟩ := valid
  have extentRational : (0 : ℚ) ≤ D := by exact_mod_cast extentNonneg
  have kernelRational : (0 : ℚ) ≤ K := by exact_mod_cast zero_le_one.trans kernelPos
  rcases extentNonneg.eq_or_lt with rfl | extentPos
  · obtain ⟨e, reached⟩ := sameEnd_of_empty extentHeld kernelHeld strideHeld kernelPos stridePos
    refine Or.inr ⟨⟨e, reached⟩, _, (rounds_sub reached extentHeld).toRat?_of_le
      (representable_of_toRat? reached) ?_⟩
    rw [Int.cast_zero, sub_zero]
    exact le_add_of_nonneg_right zero_le_one
  · unfold sameEnd
    rcases sameStart_of_pos extentHeld strideHeld extentPos stridePos with beyond | ⟨p, low, start⟩
    · rw [beyond, infinity_add false ⟨_, kernelHeld⟩]
      exact Or.inl rfl
    · rcases (rounds_add start kernelHeld).cases_of_nonneg (add_nonneg low kernelRational) with
        beyond | ⟨e, endNonneg, reached⟩
      · exact Or.inl beyond
      · refine Or.inr ⟨⟨e, reached⟩, (isFinite_sub_iff ?_ extentHeld extentRational).mpr ⟨e, reached⟩⟩
        intro q value
        exact endNonneg.trans_eq (Option.some_inj.mp (reached.symm.trans value))

/-- For an extent far from the end of the format, the last window starts far from it too, whatever the
stride is. -/
theorem sameStart_of_small (extentHeld : extent.Holds D) (strideHeld : stride.Holds S)
    (extentPos : 1 ≤ D) (stridePos : 1 ≤ S) (extentSmall : extent.AtMostPower 1000) :
    let start := ((extent / stride).ceil - 1) * stride
    start.IsFinite ∧ start.IsNonneg ∧ start.AtMostPower 1003 := by
  intro start
  have strideNonneg : (0 : ℚ) ≤ S := by exact_mod_cast zero_le_one.trans stridePos
  obtain ⟨m, previous, nonnegative, bounded⟩ :=
    windowsBefore_of_pos extentHeld strideHeld extentPos stridePos
  have startNonneg : 0 ≤ m * S := mul_nonneg nonnegative strideNonneg
  have extentLe : (D : ℚ) ≤ 2 ^ (1000 : ℤ) := extentSmall D extentHeld
  have startLe : m * S ≤ 2 ^ (1003 : ℤ) := by
    calc m * S ≤ 8 * D := bounded
      _ ≤ 8 * 2 ^ (1000 : ℤ) := by gcongr
      _ = 2 ^ (1003 : ℤ) := by
        rw [show (1003 : ℤ) = 3 + 1000 by norm_num, zpow_add₀ two_ne_zero]
        norm_num
  have rounds : start.Rounds (m * S) := rounds_mul previous strideHeld
  exact ⟨rounds.isFinite_of_le_power 1003 startNonneg startLe (by norm_num),
    rounds.isNonneg startNonneg, AtMostPower.of_rounds rounds startLe⟩

/-- For an extent and a kernel far from the end of the format, the last window ends far from it too. -/
theorem sameEnd_of_small (extentHeld : extent.Holds D) (kernelHeld : kernel.Holds K)
    (strideHeld : stride.Holds S) (valid : ValidAxis D K S) (extentSmall : extent.AtMostPower 1000)
    (kernelSmall : kernel.AtMostPower 1000) :
    (sameEnd extent kernel stride).IsFinite ∧
      (sameEnd extent kernel stride).AtMostPower 1004 := by
  obtain ⟨extentNonneg, kernelPos, stridePos⟩ := valid
  have kernelAtMost : kernel.AtMostPower 1003 := kernelSmall.mono (by norm_num)
  rcases extentNonneg.eq_or_lt with rfl | extentPos
  · have start := sameStart_of_empty extentHeld strideHeld stridePos
    have below : (-S : ℤ) ≤ 2 ^ 1003 := (neg_nonpos.mpr (by linarith)).trans (by positivity)
    exact ⟨sameEnd_of_empty extentHeld kernelHeld strideHeld kernelPos stridePos,
      (start.atMostPower below).add kernelAtMost⟩
  · obtain ⟨startFinite, startNonneg, startAtMost⟩ :=
      sameStart_of_small extentHeld strideHeld extentPos stridePos extentSmall
    have kernelNonneg : kernel.IsNonneg := kernelHeld.isNonneg (zero_le_one.trans kernelPos)
    exact ⟨startAtMost.isFinite_add kernelAtMost (by norm_num) startNonneg kernelNonneg startFinite
      ⟨_, kernelHeld⟩, startAtMost.add kernelAtMost⟩

theorem samePaddingTotal_isFinite_iff (extentHeld : extent.Holds D) (kernelHeld : kernel.Holds K)
    (strideHeld : stride.Holds S) (valid : ValidAxis D K S) :
    (samePaddingTotal extent kernel stride).IsFinite ↔ (sameEnd extent kernel stride).IsFinite := by
  have total : samePaddingTotal extent kernel stride =
      (sameEnd extent kernel stride - extent).maximum 0 := rfl
  rw [total]
  rcases sameEnd_cases extentHeld kernelHeld strideHeld valid with beyond | ⟨ends, remains⟩
  · rw [beyond, infinity_sub false ⟨_, extentHeld⟩, infinity_maximum_zero]
  · exact iff_of_true (isFinite_maximum_zero remains) ends

end SameEnd

/-! ### The amounts of an axis -/

/-- In a `same` mode the amount in front is half the total, cut off or filled up, and the amount behind
is the rest. -/
theorem Axis.padding_computed {axis : Axis} {padType : PadType}
    (computed : padType = .same ∨ padType = .sameLower) {before after : Binary64}
    (padded : axis.padding padType = ⟨some before, some after⟩) :
    (before = (axis.samePadding / 2).floor ∨ before = (axis.samePadding / 2).ceil) ∧
      after = axis.samePadding - before := by
  rcases computed with rfl | rfl
  · cases padded
    exact ⟨Or.inl rfl, rfl⟩
  · cases padded
    exact ⟨Or.inr rfl, rfl⟩

namespace Axis.Holds

variable {axis : Axis} {D K S : ℤ} {padType : PadType} {before after : Binary64}

theorem samePadding_isNonneg (held : axis.Holds D K S) : axis.samePadding.IsNonneg := by
  intro q value
  obtain ⟨n, nonnegative, rfl⟩ := samePaddingTotal_whole (IsWhole.of_holds held.extentHeld)
    (IsWhole.of_holds held.kernelHeld) (IsWhole.of_holds held.strideHeld) value
  exact_mod_cast nonnegative

/-- The amount in front, as half the total, is not negative, and has a value exactly if the total has. -/
theorem half_spec (held : axis.Holds D K S)
    (inFront : before = (axis.samePadding / 2).floor ∨ before = (axis.samePadding / 2).ceil) :
    before.IsNonneg ∧ (before.IsFinite ↔ axis.samePadding.IsFinite) := by
  have half : (axis.samePadding / 2).IsFinite ↔ axis.samePadding.IsFinite :=
    isFinite_div_iff holds_two (by norm_num)
  have halfNonneg : (axis.samePadding / 2).IsNonneg :=
    held.samePadding_isNonneg.div holds_two (by norm_num)
  rcases inFront with rfl | rfl
  · exact ⟨halfNonneg.floor, isFinite_floor_iff.trans half⟩
  · exact ⟨halfNonneg.ceil, isFinite_ceil_iff.trans half⟩

/-- Each amount of a `same` mode has a value exactly if the place where the last window ends has. -/
theorem amounts_isFinite_iff (held : axis.Holds D K S)
    (computed : padType = .same ∨ padType = .sameLower)
    (padded : axis.padding padType = ⟨some before, some after⟩) :
    (before.IsFinite ↔ (sameEnd axis.extent axis.kernel axis.stride).IsFinite) ∧
      (after.IsFinite ↔ (sameEnd axis.extent axis.kernel axis.stride).IsFinite) := by
  rw [← samePaddingTotal_isFinite_iff held.extentHeld held.kernelHeld held.strideHeld held.valid]
  change (before.IsFinite ↔ axis.samePadding.IsFinite) ∧
    (after.IsFinite ↔ axis.samePadding.IsFinite)
  obtain ⟨inFront, rfl⟩ := padding_computed computed padded
  obtain ⟨beforeNonneg, beforeFinite⟩ := held.half_spec inFront
  refine ⟨beforeFinite, ?_, fun total => ?_⟩
  · rintro ⟨r, rest⟩
    obtain ⟨t, -, value, -, -⟩ := exists_of_toRat?_sub rest
    exact ⟨t, value⟩
  · obtain ⟨b, value⟩ := beforeFinite.mpr total
    exact (isFinite_sub_iff held.samePadding_isNonneg value (beforeNonneg b value)).mpr total

/-- For an extent and a kernel far from the end of the format, the amounts of a `same` mode are far from
it too. -/
theorem amounts_of_small (held : axis.Holds D K S)
    (computed : padType = .same ∨ padType = .sameLower)
    (padded : axis.padding padType = ⟨some before, some after⟩)
    (extentSmall : axis.extent.AtMostPower 1000) (kernelSmall : axis.kernel.AtMostPower 1000) :
    (before.IsFinite ∧ before.AtMostPower 1004) ∧ after.IsFinite ∧ after.AtMostPower 1004 := by
  obtain ⟨endFinite, endSmall⟩ := sameEnd_of_small held.extentHeld held.kernelHeld held.strideHeld
    held.valid extentSmall kernelSmall
  have totalSmall : axis.samePadding.AtMostPower 1004 :=
    (endSmall.sub (held.extentHeld.isNonneg held.valid.extent_nonneg)).maximum_zero
  obtain ⟨beforeFinite, afterFinite⟩ := held.amounts_isFinite_iff computed padded
  obtain ⟨inFront, rfl⟩ := padding_computed computed padded
  obtain ⟨beforeNonneg, -⟩ := held.half_spec inFront
  have beforeSmall : before.AtMostPower 1004 := by
    rcases inFront with rfl | rfl
    · exact totalSmall.half.floor
    · exact totalSmall.half.ceil
  exact ⟨⟨beforeFinite.mpr endFinite, beforeSmall⟩, afterFinite.mpr endFinite,
    totalSmall.sub beforeNonneg⟩

end Axis.Holds

/-! ### An axis of an accepted node -/

namespace AcceptedAxis

variable {node : Node} {valid : Validated} {index : ℕ} {axis : Axis} {D K S b a : ℤ}
  {before after : Binary64}

/-- Amounts that have values are whole numbers that are not negative, under any mode. -/
theorem amounts_isCount (accepted : AcceptedAxis node valid index axis D K S b a) {padType : PadType}
    (padded : axis.padding padType = ⟨some before, some after⟩) (beforeFinite : before.IsFinite)
    (afterFinite : after.IsFinite) : before.IsCount ∧ after.IsCount := by
  obtain ⟨first, -, second, -, given, firstHeld, secondHeld⟩ := accepted.exists_listed
  obtain ⟨b', a', beforeNonneg, afterNonneg, beforeHeld, afterHeld⟩ :=
    accepted.holds.padding_whole given firstHeld secondHeld accepted.before_nonneg
      accepted.after_nonneg padded beforeFinite afterFinite
  exact ⟨⟨b', beforeNonneg, beforeHeld⟩, a', afterNonneg, afterHeld⟩

/-- Amounts that are not computed are whole numbers that are not negative. -/
theorem amounts_of_listed (accepted : AcceptedAxis node valid index axis D K S b a)
    {padType : PadType} (listed : padType = .valid ∨ padType = .custom)
    (padded : axis.padding padType = ⟨some before, some after⟩) :
    before.IsCount ∧ after.IsCount := by
  rcases listed with rfl | rfl
  · cases padded
    exact ⟨⟨0, le_rfl, holds_zero⟩, 0, le_rfl, holds_zero⟩
  · obtain ⟨first, -, second, -, given, firstHeld, secondHeld⟩ := accepted.exists_listed
    rw [Axis.padding, given] at padded
    cases padded
    exact ⟨⟨b, accepted.before_nonneg, firstHeld⟩, a, accepted.after_nonneg, secondHeld⟩

/-- In a `same` mode each amount is a whole number that is not negative exactly if the place where the
last window ends has a value. -/
theorem amounts_isCount_iff (accepted : AcceptedAxis node valid index axis D K S b a)
    {padType : PadType} (computed : padType = .same ∨ padType = .sameLower)
    (padded : axis.padding padType = ⟨some before, some after⟩) :
    (before.IsCount ↔ (sameEnd axis.extent axis.kernel axis.stride).IsFinite) ∧
      (after.IsCount ↔ (sameEnd axis.extent axis.kernel axis.stride).IsFinite) := by
  obtain ⟨beforeFinite, afterFinite⟩ := accepted.holds.amounts_isFinite_iff computed padded
  have both (ends : (sameEnd axis.extent axis.kernel axis.stride).IsFinite) :=
    accepted.amounts_isCount padded (beforeFinite.mpr ends) (afterFinite.mpr ends)
  exact ⟨⟨fun count => beforeFinite.mp count.isFinite, fun ends => (both ends).1⟩,
    fun count => afterFinite.mp count.isFinite, fun ends => (both ends).2⟩

/-- The padded extent is not negative if it has a value. -/
theorem padded_isNonneg (accepted : AcceptedAxis node valid index axis D K S b a) {padType : PadType}
    (padded : axis.padding padType = ⟨some before, some after⟩) :
    (axis.extent + (before + after)).IsNonneg := by
  refine (accepted.holds.extentHeld.isNonneg accepted.holds.valid.extent_nonneg).add ?_
  intro r value
  obtain ⟨p, q, beforeValue, afterValue, rounded⟩ := exists_of_toRat?_add value
  obtain ⟨⟨b', beforeNonneg, beforeHeld⟩, a', afterNonneg, afterHeld⟩ :=
    accepted.amounts_isCount padded ⟨p, beforeValue⟩ ⟨q, afterValue⟩
  exact (beforeHeld.isNonneg beforeNonneg).add (afterHeld.isNonneg afterNonneg) r value

/-- The number of windows is a whole number exactly if the padded extent has a value. -/
theorem windows_isWhole_iff (accepted : AcceptedAxis node valid index axis D K S b a)
    {padType : PadType} (padded : axis.padding padType = ⟨some before, some after⟩)
    (ceilMode : Bool) :
    (∃ out : ℤ, (axis.windows (axis.padding padType) ceilMode).Holds out) ↔
      (axis.extent + (before + after)).IsFinite := by
  have counted : axis.windows (axis.padding padType) ceilMode =
      windowCount axis.extent axis.kernel axis.stride before after ceilMode := by
    rw [padded]
    rfl
  rw [counted, ← (windowCount_isWhole _ _ _ _ _ _).isFinite_iff]
  exact isFinite_windowCount_iff (accepted.padded_isNonneg padded) accepted.holds.kernelHeld
    accepted.holds.strideHeld accepted.holds.valid.kernel_pos accepted.holds.valid.stride_pos ceilMode

/-- Without padding the padded extent is the extent, which has a value. -/
theorem padded_of_valid (accepted : AcceptedAxis node valid index axis D K S b a)
    (padded : axis.padding .valid = ⟨some before, some after⟩) :
    (axis.extent + (before + after)).IsFinite := by
  cases padded
  have total : ((0 : Binary64) + 0).Holds 0 := holds_zero.add holds_zero (by norm_num)
  have extentHeld := accepted.holds.extentHeld
  refine ⟨_, (rounds_add extentHeld total).toRat?_of_le (representable_of_toRat? extentHeld) ?_⟩
  rw [Int.cast_zero, add_zero]
  exact le_add_of_nonneg_right zero_le_one

/-- Far from the end of the format the amounts and the padded extent have values, whatever the stride
is. -/
theorem finite_of_small (accepted : AcceptedAxis node valid index axis D K S b a) {padType : PadType}
    (padded : axis.padding padType = ⟨some before, some after⟩)
    (extentSmall : axis.extent.AtMostPower 1000) (kernelSmall : axis.kernel.AtMostPower 1000)
    (padSmall : ∀ amount ∈ node.resolve.parameters.pad, amount.AtMostPower 1000) :
    (before.IsCount ∧ after.IsCount) ∧ (axis.extent + (before + after)).IsFinite := by
  obtain ⟨⟨beforeFinite, beforeSmall⟩, afterFinite, afterSmall⟩ :
      (before.IsFinite ∧ before.AtMostPower 1004) ∧ after.IsFinite ∧ after.AtMostPower 1004 := by
    cases padType with
    | same => exact accepted.holds.amounts_of_small (Or.inl rfl) padded extentSmall kernelSmall
    | sameLower => exact accepted.holds.amounts_of_small (Or.inr rfl) padded extentSmall kernelSmall
    | valid =>
      cases padded
      have zeroSmall : (0 : Binary64).AtMostPower 1004 := holds_zero.atMostPower (by positivity)
      exact ⟨⟨⟨_, holds_zero⟩, zeroSmall⟩, ⟨_, holds_zero⟩, zeroSmall⟩
    | custom =>
      obtain ⟨first, firstListed, second, secondListed, given, firstHeld, secondHeld⟩ :=
        accepted.exists_listed
      rw [Axis.padding, given] at padded
      cases padded
      exact ⟨⟨⟨_, firstHeld⟩, (padSmall _ firstListed).mono (by norm_num)⟩,
        ⟨_, secondHeld⟩, (padSmall _ secondListed).mono (by norm_num)⟩
  obtain ⟨⟨b', beforeNonneg, beforeHeld⟩, a', afterNonneg, afterHeld⟩ :=
    accepted.amounts_isCount padded beforeFinite afterFinite
  have beforeIsNonneg := beforeHeld.isNonneg beforeNonneg
  have afterIsNonneg := afterHeld.isNonneg afterNonneg
  have totalFinite : (before + after).IsFinite :=
    beforeSmall.isFinite_add afterSmall (by norm_num) beforeIsNonneg afterIsNonneg beforeFinite
      afterFinite
  have extentIsNonneg := accepted.holds.extentHeld.isNonneg accepted.holds.valid.extent_nonneg
  have paddedFinite : (axis.extent + (before + after)).IsFinite :=
    (extentSmall.mono (by norm_num)).isFinite_add (beforeSmall.add afterSmall) (by norm_num)
      extentIsNonneg (beforeIsNonneg.add afterIsNonneg) ⟨_, accepted.holds.extentHeld⟩ totalFinite
  exact ⟨⟨⟨b', beforeNonneg, beforeHeld⟩, a', afterNonneg, afterHeld⟩, paddedFinite⟩

end AcceptedAxis

/-! ### Answers of accepted nodes -/

/-- An accepted node gets one pair of amounts and one output extent for every spatial dim. Under `valid`
and `custom` the amounts are whole numbers that are not negative; under the `same` modes they are exactly
if the place where the last window ends does not overflow. The output extent is a whole number exactly if
the padded extent does not overflow, which under `valid` it never does. Up to `2 ^ 1000` nothing
overflows, whatever the stride is. -/
theorem answers_are_whole_unless_overflow (node : Node) (configuration : Configuration)
    (options : Options) (explanation : Explanation)
    (accepted : (node.explain configuration options).result = .ok explanation) :
    explanation.padAmounts.length = node.input.rank - 2 ∧
      explanation.outputType.rank = node.input.rank ∧
      ∀ index < node.input.rank - 2, ∃ extent kernel stride before after out,
        node.input.shape[index + 2]? = some (.extent extent) ∧
        node.resolve.parameters.kernelSizes[index]? = some kernel ∧
        node.resolve.parameters.strides[index]? = some stride ∧
        explanation.padAmounts[index]? = some ⟨some before, some after⟩ ∧
        explanation.outputType.shape[index + 2]? = some (.extent out) ∧
        (explanation.padType = .valid ∨ explanation.padType = .custom →
          before.IsCount ∧ after.IsCount) ∧
        (explanation.padType = .same ∨ explanation.padType = .sameLower →
          (before.IsCount ↔ (sameEnd extent kernel stride).IsFinite) ∧
            (after.IsCount ↔ (sameEnd extent kernel stride).IsFinite)) ∧
        ((∃ n : ℤ, out.Holds n) ↔ (extent + (before + after)).IsFinite) ∧
        (explanation.padType = .valid → ∃ n : ℤ, out.Holds n) ∧
        (extent.AtMostPower 1000 → kernel.AtMostPower 1000 →
          (∀ amount ∈ node.resolve.parameters.pad, amount.AtMostPower 1000) →
            before.IsCount ∧ after.IsCount ∧ ∃ n : ℤ, out.Holds n) := by
  obtain ⟨valid, validated, rfl⟩ :=
    Node.explanation_eq_ok_iff.mp (Node.explain_eq_ok_iff.mp accepted)
  refine ⟨Node.length_padAmounts validated, Node.rank_outputType validated, fun index inside => ?_⟩
  obtain ⟨axis, D, K, S, b, a, holds⟩ := exists_acceptedAxis validated inside
  obtain ⟨before, after, padded⟩ := holds.isFull_padding valid.padType
  have amountsAt := holds.amountsAt
  have wholeIff := holds.windows_isWhole_iff padded node.resolve.parameters.ceilMode
  refine ⟨axis.extent, axis.kernel, axis.stride, before, after, _, holds.extentAt, holds.kernelAt,
    holds.strideAt, padded ▸ amountsAt, holds.outputAt, fun listed => ?_, fun computed => ?_, wholeIff,
    fun none => ?_, fun extentSmall kernelSmall padSmall => ?_⟩
  · exact holds.amounts_of_listed listed padded
  · exact holds.amounts_isCount_iff computed padded
  · exact wholeIff.mpr (holds.padded_of_valid (none ▸ padded))
  · obtain ⟨⟨beforeCount, afterCount⟩, paddedFinite⟩ :=
      holds.finite_of_small padded extentSmall kernelSmall padSmall
    exact ⟨beforeCount, afterCount, wholeIff.mpr paddedFinite⟩

/-- Ten windows, the last of which ends beyond the format. -/
def hugeNode : Node :=
  Node.create 1 .maxPool ⟨"fp32", .ofExtents [1, 1, Binary64.ofNat (10 ^ 308)]⟩
    { Attributes.required [Binary64.ofNat (10 ^ 308)] "same" with
      strides := some [Binary64.ofNat (10 ^ 307)] }

/-- Numbers that the validation admits can come to amounts that are not finite, and to an extent that is
no number. -/
theorem overflow_leaves_no_number :
    ∃ explanation, (hugeNode.explain ⟨.opset18, false⟩ ⟨none, none⟩).result = .ok explanation ∧
      explanation.padAmounts = [⟨some (.infinity false), some .nan⟩] ∧
      explanation.outputType = ⟨"fp32", .ofExtents [1, 1, .nan]⟩ ∧
      ¬ (Binary64.infinity false).IsCount ∧ ¬ Binary64.nan.IsCount ∧
      ¬ ∃ n : ℤ, Binary64.nan.Holds n := by
  refine ⟨hugeNode.explained ⟨.same, [Binary64.ofNat (10 ^ 308)]⟩, by decide +kernel,
    by decide +kernel, by decide +kernel, ?_, ?_, ?_⟩
  · exact fun count => not_isFinite_infinity false count.isFinite
  · rintro ⟨n, -, held⟩
    cases held
  · rintro ⟨n, held⟩
    cases held

/-- An axis beyond the whole numbers that the format holds without gaps, with a wider kernel. -/
def wideNode : Node :=
  Node.create 1 .avgPool ⟨"fp32", .ofExtents [1, 1, Binary64.ofNat (2 ^ 60)]⟩
    { Attributes.required [Binary64.ofNat (2 ^ 61)] "same_lower" with
      strides := some [3]
      ceilMode := some true }

theorem wide_answers_are_whole :
    (wideNode.explain ⟨.opset18, false⟩ ⟨none, none⟩).result =
        .ok (wideNode.explained ⟨.sameLower, [Binary64.ofNat (2 ^ 60)]⟩) ∧
      ∃ before after out,
        (wideNode.explained ⟨.sameLower, [Binary64.ofNat (2 ^ 60)]⟩).padAmounts =
            [⟨some before, some after⟩] ∧
          (wideNode.explained ⟨.sameLower, [Binary64.ofNat (2 ^ 60)]⟩).outputType =
            ⟨"fp32", .ofExtents [1, 1, out]⟩ ∧
          before.IsCount ∧ after.IsCount ∧ ∃ n : ℤ, out.Holds n := by
  have accepted : (wideNode.explain ⟨.opset18, false⟩ ⟨none, none⟩).result =
      .ok (wideNode.explained ⟨.sameLower, [Binary64.ofNat (2 ^ 60)]⟩) := by decide +kernel
  have extentHeld : (Binary64.ofNat (2 ^ 60)).Holds (2 ^ 60) := by
    show Binary64.toRat? _ = some _
    decide +kernel
  have kernelHeld : (Binary64.ofNat (2 ^ 61)).Holds (2 ^ 61) := by
    show Binary64.toRat? _ = some _
    decide +kernel
  have power60 : (2 ^ 60 : ℤ) ≤ 2 ^ 1000 := pow_le_pow_right₀ one_le_two (by norm_num)
  have power61 : (2 ^ 61 : ℤ) ≤ 2 ^ 1000 := pow_le_pow_right₀ one_le_two (by norm_num)
  obtain ⟨-, -, each⟩ := answers_are_whole_unless_overflow wideNode _ _ _ accepted
  obtain ⟨extent, kernel, stride, before, after, out, extentAt, kernelAt, -, amountsAt, outAt, -, -, -,
    -, small⟩ := each 0 (by decide)
  obtain rfl := Dim.extent.inj (Option.some_inj.mp extentAt)
  obtain rfl := Option.some_inj.mp kernelAt
  refine ⟨accepted, before, after, out, ?_, ?_, small (extentHeld.atMostPower power60)
    (kernelHeld.atMostPower power61) ?_⟩
  · exact congrArg List.singleton (Option.some_inj.mp amountsAt)
  · exact congrArg (fun dim => TensorType.mk "fp32" [.extent 1, .extent 1, dim])
      (Option.some_inj.mp outAt)
  · have unlisted : wideNode.resolve.parameters.pad = [0, 0] := rfl
    rw [unlisted]
    have zeroSmall : (0 : Binary64).AtMostPower 1000 := holds_zero.atMostPower (by positivity)
    simp only [List.forall_mem_cons]
    exact ⟨zeroSmall, zeroSmall, List.forall_mem_nil _⟩

end Pooling
