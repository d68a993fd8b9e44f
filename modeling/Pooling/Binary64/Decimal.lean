/-
This file reads numbers from decimals and writes them. A decimal is read by rounding its exact value
once. A number is written with the fewest significant digits that read back as the same number; of
those the nearest is chosen, and of two equally near ones the one with the even last digit. On a grid
of decimals the two neighbours of a value are enough to look at: if any point of the grid reads back,
one of them does. Digits are laid out positionally from `10 ^ (-6)` up to, and without, `10 ^ 21`, and
with an exponent elsewhere.
-/

import Pooling.Binary64.Basic

namespace Pooling.Binary64

/-! ### Reading -/

/-- The number nearest to `mantissa / 10 ^ places`. -/
def ofDecimal (mantissa : Int) (places : Nat) : Binary64 :=
  ofRat (mantissa / (10 : Rat) ^ places)

/-! ### The fewest digits -/

/-- A positive decimal `digits * 10 ^ exponent`. -/
structure Decimal where
  digits : Nat
  exponent : Int
  deriving DecidableEq

/-- The exact value of a decimal. -/
def Decimal.value (decimal : Decimal) : Rat :=
  decimal.digits * (10 : Rat) ^ decimal.exponent

/-- The decimal reads back as `q`. -/
def Decimal.readsBack (decimal : Decimal) (q : Rat) : Bool :=
  nearest decimal.value = q

/-- How many decimal digits a natural number is written with. -/
def digitCount (n : Nat) : Nat :=
  (Nat.toDigits 10 n).length

/-- The exponent of the greatest power of ten that is at most a positive `q`. Below one, that power is
the first that the reciprocal does not exceed. -/
def decimalExponent (q : Rat) : Int :=
  if 1 ≤ q then digitCount q.floor.toNat - 1 else -(digitCount ((1 / q).ceil.toNat - 1) : Int)

/-- The decimal with `count` significant digits that is nearest to `q` among those that read back as `q`,
if any does. -/
def nearestDecimal? (q : Rat) (count : Nat) : Option Decimal :=
  let exponent := decimalExponent q + 1 - count
  let scaled := q / (10 : Rat) ^ exponent
  let below : Decimal := ⟨scaled.floor.toNat, exponent⟩
  let above : Decimal := ⟨below.digits + 1, exponent⟩
  match below.readsBack q, above.readsBack q with
  | true, true => some ⟨(roundHalfEven scaled).toNat, exponent⟩
  | true, false => some below
  | false, true => some above
  | false, false => none

/-- Seventeen significant digits tell all numbers of the format apart. -/
def digitLimit : Nat := 17

/-- The shortest decimal that reads back as a positive `q`, the nearest of its length. -/
def shortestDecimal (q : Rat) : Decimal :=
  let counts := (List.range digitLimit).map (· + 1)
  (counts.findSome? (nearestDecimal? q)).getD ⟨q.floor.toNat, 0⟩

/-! ### Writing -/

/-- The digits without the zeros at their end. -/
def withoutTrailingZeros (digits : List Char) : List Char :=
  (digits.reverse.dropWhile (· = '0')).reverse

/-- The exponents, counted from in front of the first digit, that are written positionally. -/
def isPositional (point : Int) : Bool :=
  -6 < point && point ≤ 21

/-- The significant digits with the point set `point` places after their start. -/
def positional (digits : List Char) (point : Int) : String :=
  let zeros (count : Int) := List.replicate count.toNat '0'
  let text :=
    if point ≤ 0 then '0' :: '.' :: zeros (-point) ++ digits
    else if digits.length ≤ point then digits ++ zeros (point - digits.length)
    else digits.take point.toNat ++ '.' :: digits.drop point.toNat
  String.ofList text

/-- The significant digits with one digit in front of the point and a signed exponent behind them. -/
def scientific (digits : List Char) (exponent : Int) : String :=
  let fraction := if digits.length ≤ 1 then [] else '.' :: digits.drop 1
  let sign := if exponent < 0 then "-" else "+"
  String.ofList (digits.take 1 ++ fraction) ++ "e" ++ sign ++ toString exponent.natAbs

/-- The text of a positive decimal. -/
def Decimal.text (decimal : Decimal) : String :=
  let written := Nat.toDigits 10 decimal.digits
  let point := written.length + decimal.exponent
  let digits := withoutTrailingZeros written
  if isPositional point then positional digits point else scientific digits (point - 1)

/-- The text of a number. Both zeros are written alike. -/
def text : Binary64 → String
  | nan => "NaN"
  | infinity false => "Infinity"
  | infinity true => "-Infinity"
  | negativeZero => "0"
  | finite value _ =>
    if value = 0 then "0"
    else if value < 0 then "-" ++ (shortestDecimal (-value)).text
    else (shortestDecimal value).text

end Pooling.Binary64
