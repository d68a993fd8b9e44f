/-
This file defines the pooling operators and their attributes. A caller gives kernel sizes and a padding
mode and may leave the rest unset; unset attributes take values that depend on the rank of the input
alone: unit strides, no padding on either side of any spatial axis, and rounding down.
-/

import Pooling.Binary64.Basic

namespace Pooling

/-! ### Operators -/

/-- A pooling operator. -/
inductive Operator where
  | avgPool
  | l2Pool
  | maxPool
  deriving DecidableEq

namespace Operator

/-- All operators. -/
def all : List Operator :=
  [avgPool, l2Pool, maxPool]

/-- The name that messages begin with. -/
def name : Operator → String
  | avgPool => "avg_pool"
  | l2Pool => "l2_pool"
  | maxPool => "max_pool"

/-- The operator of a name. -/
def ofName? (name : String) : Option Operator :=
  all.find? (·.name = name)

end Operator

/-! ### Attributes -/

/-- Attributes as a caller gives them. Every operator accepts the choice to leave padded positions out of
an average, and only the average makes use of it. -/
structure Attributes where
  kernelSizes : List Binary64
  strides : Option (List Binary64)
  padType : String
  pad : Option (List Binary64)
  ceilMode : Option Bool
  excludePadding : Option Bool
  deriving DecidableEq

/-- The values that unset attributes take. -/
structure Defaults where
  strides : List Binary64
  pad : List Binary64
  ceilMode : Bool
  deriving DecidableEq

namespace Defaults

/-- The defaults for so many spatial axes. -/
def ofSpatialRank (spatialRank : Nat) : Defaults :=
  ⟨List.replicate spatialRank 1, List.replicate (2 * spatialRank) 0, false⟩

/-- The defaults for an input with so many dims, of which all but batch and channel are spatial. -/
def ofRank (rank : Nat) : Defaults :=
  ofSpatialRank (rank - 2)

end Defaults

/-- No list can have the length that was asked for. -/
inductive LengthError where
  | invalidLength
  deriving DecidableEq

/-- The text of the error. -/
def LengthError.message : LengthError → String
  | invalidLength => "Invalid array length"

/-- Lengths of lists fit in 32 bits. -/
def lengthBound : Rat :=
  (2 : Rat) ^ (32 : Int)

/-- The number as the length of a list, if it is one. -/
def Binary64.toLength (number : Binary64) : Except LengthError Nat :=
  match number.toRat? with
  | some value =>
    if value.den = 1 && 0 ≤ value && value < lengthBound then .ok value.num.toNat
    else .error .invalidLength
  | none => .error .invalidLength

/-- The defaults for a rank that may be any number. Strides need as many entries as there are spatial axes,
and pad amounts twice as many. -/
def Defaults.ofNumber (rank : Binary64) : Except LengthError Defaults := do
  let spatialRank := (rank - 2).maximum 0
  let axes ← spatialRank.toLength
  let _ ← (2 * spatialRank).toLength
  return ofSpatialRank axes

/-! ### Resolved attributes -/

/-- Attributes with every default filled in. `padGiven` remembers that the caller listed the amounts. -/
structure Parameters where
  kernelSizes : List Binary64
  strides : List Binary64
  padType : String
  pad : List Binary64
  ceilMode : Bool
  padGiven : Bool
  deriving DecidableEq

/-- Fill the unset attributes from the rank of the input. Shapes with so many dims that no list has room for
the defaults, which `Defaults.ofNumber` refuses, are out of scope here. -/
def Attributes.resolve (attributes : Attributes) (rank : Nat) : Parameters :=
  let defaults := Defaults.ofRank rank
  { kernelSizes := attributes.kernelSizes
    strides := attributes.strides.getD defaults.strides
    padType := attributes.padType
    pad := attributes.pad.getD defaults.pad
    ceilMode := attributes.ceilMode.getD defaults.ceilMode
    padGiven := attributes.pad.isSome }

/-- An operator with the attribute that is its own. -/
inductive Variant where
  | avgPool (excludePadding : Bool)
  | l2Pool
  | maxPool
  deriving DecidableEq

namespace Variant

/-- The operator without its attribute. -/
def operator : Variant → Operator
  | avgPool _ => .avgPool
  | l2Pool => .l2Pool
  | maxPool => .maxPool

end Variant

/-- The variant that an operator becomes under the given attributes. -/
def Operator.variant (operator : Operator) (attributes : Attributes) : Variant :=
  match operator with
  | avgPool => .avgPool (attributes.excludePadding.getD false)
  | l2Pool => .l2Pool
  | maxPool => .maxPool

/-- A pooling operation with nothing left unset. -/
structure ResolvedPool where
  variant : Variant
  parameters : Parameters
  deriving DecidableEq

namespace ResolvedPool

/-- The operator of the operation. -/
def operator (pool : ResolvedPool) : Operator :=
  pool.variant.operator

end ResolvedPool

end Pooling
