/-
This file checks a resolved pooling operation against its input and a target. Checks run in a fixed
order and the first that fails is reported: the input type from its element type to its last dim, the
lists of numbers one after the other, the limit of the operator, the padding mode, the limits of
rounding up, and last the target. A later check may rely on all earlier ones.
-/

import Pooling.Axis
import Pooling.Fault

namespace Pooling

/-! ### Reporting -/

/-- Stop with a fault of the operator, if there is one. -/
def Operator.report (operator : Operator) : Option Fault → Except InvalidParameter Unit
  | some fault => .error ⟨operator, fault⟩
  | none => .ok ()

/-! ### The input type -/

/-- The fault of the dim at a place of a shape. Batch and channel may be symbols that are not empty, and
every other dim is a concrete extent. -/
def Shape.dimFault? (shape : Shape) (index : Nat) (dim : Dim) : Option Fault :=
  match dim with
  | .symbol name =>
    if index < leadingRank then
      if name.isEmpty then some (.emptySymbol index) else none
    else some (.extent index dim shape)
  | .extent _ => if dim.isConcrete then none else some (.extent index dim shape)

/-- The first fault among the dims. -/
def Shape.fault? (shape : Shape) : Option Fault :=
  (shape.mapIdx shape.dimFault?).findSome? id

/-- The first fault of an input type. -/
def TensorType.fault? (input : TensorType) : Option Fault :=
  if input.elementType ∉ elementTypes then some (.elementType input.elementType)
  else if input.rank < minRank ∨ maxRank < input.rank then some (.rank input.shape)
  else input.shape.fault?

/-- Check an input type and give its spatial extents. -/
def validateInput (operator : Operator) (input : TensorType) :
    Except InvalidParameter (List Binary64) := do
  operator.report input.fault?
  return input.shape.spatialExtents

/-! ### The lists of numbers -/

namespace AxisList

/-- The entries of the list in a set of parameters. -/
def values (list : AxisList) (parameters : Parameters) : List Binary64 :=
  match list with
  | kernelSizes => parameters.kernelSizes
  | strides => parameters.strides
  | pad => parameters.pad

/-- An entry that the list may hold: a whole number that is not below the least value. -/
def allows (list : AxisList) (value : Binary64) : Bool :=
  value.isInteger && !value.less list.least

/-- The fault of the list, first in its length and then in its entries. -/
def fault? (list : AxisList) (parameters : Parameters) (spatialRank : Binary64) : Option Fault :=
  let values := list.values parameters
  let expected := list.lengthFor spatialRank
  if !(Binary64.ofNat values.length).sameValue expected then some (.length list expected values)
  else if values.all list.allows then none
  else some (.range list values)

/-- The lists in the order in which they are checked. -/
def all : List AxisList :=
  [kernelSizes, strides, pad]

end AxisList

/-- Check the lists of numbers for so many spatial axes, which may be any number. -/
def validateLists (operator : Operator) (parameters : Parameters) (spatialRank : Binary64) :
    Except InvalidParameter Unit :=
  operator.report (AxisList.all.findSome? fun list => list.fault? parameters spatialRank)

/-! ### The operator and the padding mode -/

/-- The greatest number of spatial axes for the L2 operator and for rounding up. -/
def flatRank : Nat := 2

/-- The fault of an operator on so many spatial axes. -/
def Operator.rankFault? (operator : Operator) (spatialRank : Nat) : Option Fault :=
  if operator = .l2Pool ∧ flatRank < spatialRank then some (.l2Rank spatialRank) else none

/-- Read a padding mode. -/
def readPadType (operator : Operator) (text : String) : Except InvalidParameter PadType :=
  match PadType.ofText? text with
  | some padType => .ok padType
  | none => .error ⟨operator, .padType text⟩

/-! ### Rounding up and the target -/

/-- The fault of the pad amounts of one axis when they are not alike on both sides. -/
def Parameters.asymmetry? (parameters : Parameters) (axis : Nat) : Option Fault :=
  let before := operand parameters.pad[2 * axis]?
  let after := operand parameters.pad[2 * axis + 1]?
  if before.sameValue after then none else some (.asymmetric parameters.pad axis before after)

/-- The fault of rounding up on so many spatial axes. Amounts that the caller did not list are alike. -/
def Parameters.ceilFault? (parameters : Parameters) (padType : PadType) (spatialRank : Nat) :
    Option Fault :=
  if !parameters.ceilMode then none
  else if flatRank < spatialRank then some (.ceilRank spatialRank)
  else if padType = .same then some .ceilSame
  else if parameters.padGiven then (List.range spatialRank).findSome? parameters.asymmetry?
  else none

/-- The fault of a padding mode on a target. The earliest target cannot pad in front of an axis first. -/
def PadType.targetFault? (padType : PadType) (target : String) : Option Fault :=
  if target = Target.earliest.name ∧ padType = .sameLower then some (.sameLowerTarget target) else none

/-! ### The whole operation -/

/-- What a valid operation is computed from: its padding mode and the extents of its axes. -/
structure Validated where
  padType : PadType
  extents : List Binary64
  deriving DecidableEq

/-- Check a resolved operation on an input for a target. -/
def ResolvedPool.validate (pool : ResolvedPool) (input : TensorType) (target : String) :
    Except InvalidParameter Validated := do
  let operator := pool.operator
  let extents ← validateInput operator input
  let spatialRank := extents.length
  validateLists operator pool.parameters (Binary64.ofNat spatialRank)
  operator.report (operator.rankFault? spatialRank)
  let padType ← readPadType operator pool.parameters.padType
  operator.report (pool.parameters.ceilFault? padType spatialRank)
  operator.report (padType.targetFault? target)
  return ⟨padType, extents⟩

end Pooling
