/-
This file says which rational numbers the binary64 format holds and how any other rational is
brought to one of them. The numbers between two neighbouring powers of two stand on an even grid of
`2 ^ 52` steps, the grid under the least normal number keeps the step `2 ^ (-1074)` down to zero, and
a number off the grid goes to the nearer neighbour, a number half way to the neighbour with the even
count. Rounding ignores the upper end of the format, so that a value has overflowed exactly when its
rounded form reaches `2 ^ 1024`.
-/

namespace Pooling.Binary64

/-! ### Whole numbers from rationals -/

/-- The integer nearest to `q`. A half goes to the even neighbour. -/
def roundHalfEven (q : Rat) : Int :=
  let below := q.floor
  let remainder := q - below
  if remainder < 1 / 2 then below
  else if 1 / 2 < remainder then below + 1
  else if below % 2 = 0 then below
  else below + 1

/-! ### The grid -/

/-- The exponent of the greatest power of two that is at most the magnitude of a nonzero `q`. The bit
lengths of numerator and denominator leave two candidates, and one comparison decides. -/
def binaryExponent (q : Rat) : Int :=
  let candidate := (Nat.log2 q.num.natAbs : Int) - Nat.log2 q.den
  if (2 : Rat) ^ candidate ≤ q.abs then candidate else candidate - 1

/-- The exponent of the grid step at `q`: the significand has 53 bits, and no step is finer than
`2 ^ (-1074)`. -/
def stepExponent (q : Rat) : Int :=
  max (binaryExponent q - 52) (-1074)

/-- The distance of neighbouring grid points at `q`. -/
def step (q : Rat) : Rat :=
  (2 : Rat) ^ stepExponent q

/-- The grid point nearest to `q`. -/
def nearest (q : Rat) : Rat :=
  roundHalfEven (q / step q) * step q

/-- The least power of two that lies beyond the format. -/
def overflowBound : Rat :=
  (2 : Rat) ^ (1024 : Int)

/-- The format holds `q`: rounding leaves `q` alone, and `q` is below the overflow bound. -/
def Representable (q : Rat) : Prop :=
  nearest q = q ∧ q.abs < overflowBound

instance (q : Rat) : Decidable (Representable q) :=
  inferInstanceAs (Decidable (nearest q = q ∧ q.abs < overflowBound))

theorem representable_zero : Representable 0 := by
  decide +kernel

end Pooling.Binary64
