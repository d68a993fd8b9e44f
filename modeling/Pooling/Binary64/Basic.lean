/-
This file defines the numbers of the library: the values of the binary64 format and their
arithmetic. A finite number carries its exact rational value together with the fact that the format
holds it, so every operation reads as one exact rational operation followed by one rounding. The two
zeros are apart, because a sign can still be seen through division, and what has no value is `nan`,
which no comparison accepts.
-/

import Pooling.Binary64.Rounding

namespace Pooling

/-- A value of the binary64 format. `finite 0` is the positive zero. -/
inductive Binary64 where
  | nan
  | infinity (negative : Bool)
  | negativeZero
  | finite (value : Rat) (representable : Binary64.Representable value)
  deriving DecidableEq

namespace Binary64

/-! ### From and to the rationals -/

/-- The positive zero. -/
def zero : Binary64 :=
  finite 0 representable_zero

instance : Inhabited Binary64 := ⟨zero⟩

/-- The number nearest to `q`. A result of zero takes the given sign, and a result beyond the format is
the infinity on the side of `q`. -/
def round (negative : Bool) (q : Rat) : Binary64 :=
  if representable : Representable (nearest q) then
    if negative && nearest q = 0 then negativeZero else finite (nearest q) representable
  else infinity (q < 0)

/-- The number nearest to `q`. A negative `q` too small for the format gives the negative zero. -/
def ofRat (q : Rat) : Binary64 :=
  round (q < 0) q

/-- The number nearest to an integer. -/
def ofInt (n : Int) : Binary64 :=
  ofRat n

/-- The number nearest to a natural number. -/
def ofNat (n : Nat) : Binary64 :=
  ofRat n

instance (n : Nat) : OfNat Binary64 n := ⟨ofNat n⟩

/-- The exact value of a finite number. Both zeros have the value `0`. -/
def toRat? : Binary64 → Option Rat
  | nan => none
  | infinity _ => none
  | negativeZero => some 0
  | finite value _ => some value

/-- The number lies on the negative side, the negative zero included. -/
def isNegative : Binary64 → Bool
  | nan => false
  | infinity negative => negative
  | negativeZero => true
  | finite value _ => value < 0

/-- The zero of the given sign. -/
def signedZero (negative : Bool) : Binary64 :=
  if negative then negativeZero else zero

/-! ### Arithmetic -/

/-- The number with the opposite sign. -/
def neg : Binary64 → Binary64
  | nan => nan
  | infinity negative => infinity (!negative)
  | negativeZero => zero
  | finite value _ => if value = 0 then negativeZero else ofRat (-value)

/-- The rounded sum. Opposite infinities have none, and only two negative zeros add up to one. -/
def add : Binary64 → Binary64 → Binary64
  | nan, _ => nan
  | _, nan => nan
  | infinity first, infinity second => if first = second then infinity first else nan
  | infinity negative, _ => infinity negative
  | _, infinity negative => infinity negative
  | negativeZero, second => second
  | first, negativeZero => first
  | finite first _, finite second _ => ofRat (first + second)

/-- The rounded difference. -/
def sub (first second : Binary64) : Binary64 :=
  add first (neg second)

/-- The rounded product, whose sign is negative when exactly one factor is. An infinity times a zero has
no value. -/
def mul (first second : Binary64) : Binary64 :=
  let negative := first.isNegative != second.isNegative
  match first, second with
  | nan, _ => nan
  | _, nan => nan
  | infinity _, other => if other.toRat? = some 0 then nan else infinity negative
  | other, infinity _ => if other.toRat? = some 0 then nan else infinity negative
  | negativeZero, _ => signedZero negative
  | _, negativeZero => signedZero negative
  | finite first _, finite second _ => round negative (first * second)

/-- The rounded quotient, whose sign is negative when exactly one operand is. A nonzero number over a zero
is infinite, and zero over zero or infinity over infinity has no value. -/
def div (first second : Binary64) : Binary64 :=
  let negative := first.isNegative != second.isNegative
  match first.toRat?, second.toRat? with
  | some dividend, some divisor =>
    if divisor = 0 then
      if dividend = 0 then nan else infinity negative
    else round negative (dividend / divisor)
  | some _, none => if second = nan then nan else signedZero negative
  | none, some _ => if first = nan then nan else infinity negative
  | none, none => nan

instance : Neg Binary64 := ⟨neg⟩

instance : Add Binary64 := ⟨add⟩

instance : Sub Binary64 := ⟨sub⟩

instance : Mul Binary64 := ⟨mul⟩

instance : Div Binary64 := ⟨div⟩

/-- The greatest integer that is not above the number. -/
def floor : Binary64 → Binary64
  | finite value _ => ofInt value.floor
  | other => other

/-- The least integer that is not below the number. Between `-1` and `0` that is the negative zero. -/
def ceil : Binary64 → Binary64
  | finite value _ => round (value < 0) value.ceil
  | other => other

/-! ### Comparison -/

/-- The two numbers have the same value. The zeros have, and `nan` has not even with itself. -/
def sameValue : Binary64 → Binary64 → Bool
  | infinity first, infinity second => first = second
  | first, second =>
    match first.toRat?, second.toRat? with
    | some first, some second => first = second
    | _, _ => false

/-- The first number is below the second. Nothing is below `nan` or above it. -/
def less : Binary64 → Binary64 → Bool
  | nan, _ => false
  | _, nan => false
  | infinity first, infinity second => first && !second
  | infinity negative, _ => negative
  | _, infinity negative => !negative
  | first, second =>
    match first.toRat?, second.toRat? with
    | some first, some second => first < second
    | _, _ => false

/-- The first number is at most the second. Neither is `nan`. -/
def atMost (first second : Binary64) : Bool :=
  first.less second || first.sameValue second

/-- The greater of two numbers. A `nan` on either side wins, and the positive zero is above the negative
one. -/
def maximum (first second : Binary64) : Binary64 :=
  if first = nan || second = nan then nan
  else if first.less second then second
  else if second.less first then first
  else if first = negativeZero then second
  else first

/-- The number is finite and whole. Both zeros are. -/
def isInteger (number : Binary64) : Bool :=
  match number.toRat? with
  | some value => value.den = 1
  | none => false

end Binary64

end Pooling
