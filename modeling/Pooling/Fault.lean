/-
This file lists the faults that make a pooling operation impossible to compile, and words each of them.
A fault carries the values that its wording names and nothing else, and the wording of an error begins
with the operator.
-/

import Pooling.TensorType
import Pooling.Target
import Pooling.PadType
import Pooling.Attributes

namespace Pooling

/-! ### Limits -/

/-- The element types that every pooling operator accepts. -/
def elementTypes : List String :=
  ["fp16", "fp32"]

/-- All accepted element types, parted by commas. -/
def elementTypeChoices : String :=
  ", ".intercalate elementTypes

/-- The least rank of an input: batch, channel and one spatial axis. -/
def minRank : Nat := 3

/-- The greatest rank of an input. -/
def maxRank : Nat := 5

/-! ### Lists with one entry or two per axis -/

/-- The attributes that list numbers for the spatial axes. -/
inductive AxisList where
  | kernelSizes
  | strides
  | pad
  deriving DecidableEq

namespace AxisList

/-- The name that messages use. -/
def name : AxisList → String
  | kernelSizes => "kernel_sizes"
  | strides => "strides"
  | pad => "pad"

/-- The least value of an entry. -/
def least : AxisList → Binary64
  | kernelSizes => 1
  | strides => 1
  | pad => 0

/-- The word for the allowed entries. -/
def bound : AxisList → String
  | kernelSizes => "positive"
  | strides => "positive"
  | pad => "non-negative"

/-- How many entries there must be for so many spatial axes. -/
def lengthFor (list : AxisList) (spatialRank : Binary64) : Binary64 :=
  match list with
  | kernelSizes => spatialRank
  | strides => spatialRank
  | pad => 2 * spatialRank

end AxisList

/-! ### Faults -/

/-- Why a pooling operation cannot be compiled. -/
inductive Fault where
  | elementType (found : String)
  | rank (shape : Shape)
  | emptySymbol (index : Nat)
  | extent (index : Nat) (found : Dim) (shape : Shape)
  | length (list : AxisList) (expected : Binary64) (values : List Binary64)
  | range (list : AxisList) (values : List Binary64)
  | l2Rank (spatialRank : Nat)
  | padType (text : String)
  | ceilRank (spatialRank : Nat)
  | ceilSame
  | asymmetric (pad : List Binary64) (axis : Nat) (before after : Binary64)
  | sameLowerTarget (target : String)
  deriving DecidableEq

namespace Fault

/-- The wording of a fault. -/
def text : Fault → String
  | elementType found =>
    s!"input element type must be one of {elementTypeChoices}, got {found}"
  | rank shape =>
    s!"input rank must be between {minRank} and {maxRank}, got {shape.length} for shape " ++ Shape.text shape
  | emptySymbol index => s!"input dim {index} has an empty symbol"
  | extent index found shape =>
    s!"input dim {index} must be a non-negative integer, got {found.text} in " ++ Shape.text shape
  | length list expected values =>
    s!"{list.name} must have length {expected.text}, got {values.length} ({numbersText values})"
  | range list values => s!"{list.name} must be {list.bound} integers, got {numbersText values}"
  | l2Rank spatialRank =>
    s!"only 1D or 2D pooling is supported, got {spatialRank} spatial dims"
  | padType text =>
    s!"unrecognized pad_type \"{text}\", expected one of {PadType.choices}"
  | ceilRank spatialRank =>
    s!"ceil_mode is only supported for 1D or 2D pooling, got {spatialRank} spatial dims"
  | ceilSame => "ceil_mode must be false when pad_type is same"
  | asymmetric pad axis before after =>
    s!"padding must be symmetric when ceil_mode is true, got pad {numbersText pad} " ++
      s!"(dim {axis}: {before.text} before, {after.text} after)"
  | sameLowerTarget target => s!"pad_type same_lower is not supported on target {target}"

end Fault

/-- A fault together with the operator that has it. -/
structure InvalidParameter where
  operator : Operator
  fault : Fault
  deriving DecidableEq

/-- The text of the error. -/
def InvalidParameter.message (error : InvalidParameter) : String :=
  s!"{error.operator.name}: {error.fault.text}"

end Pooling
