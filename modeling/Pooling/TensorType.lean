/-
This file defines tensor types: an element type, known by its name only, and a shape whose dims are
either extents or symbols for extents that are unknown until a program runs. The first two dims of a
shape are batch and channel, and pooling changes only those behind them.
-/

import Pooling.Binary64.Decimal

namespace Pooling

/-! ### Lists in text -/

/-- Items in square brackets, parted by commas. -/
def bracketed (items : List String) : String :=
  "[" ++ ", ".intercalate items ++ "]"

/-- Numbers in square brackets. -/
def numbersText (numbers : List Binary64) : String :=
  bracketed (numbers.map Binary64.text)

/-! ### Dims and shapes -/

/-- One dim of a shape. -/
inductive Dim where
  | extent (size : Binary64)
  | symbol (name : String)
  deriving DecidableEq

namespace Dim

/-- The dim is a symbol. -/
def isSymbolic : Dim → Bool
  | symbol _ => true
  | extent _ => false

/-- The dim is an extent that a tensor can have: a whole number that is not negative. -/
def isConcrete : Dim → Bool
  | extent size => size.isInteger && Binary64.atMost 0 size
  | symbol _ => false

/-- The extent of a dim that is not a symbol. -/
def size? : Dim → Option Binary64
  | extent size => some size
  | symbol _ => none

/-- The extent as a number, or the symbol as it is. -/
def text : Dim → String
  | extent size => size.text
  | symbol name => name

end Dim

/-- The dims in order: batch, channel, then the spatial ones. -/
abbrev Shape := List Dim

namespace Shape

/-- How many leading dims are not spatial. -/
def leadingRank : Nat := 2

/-- The shape in square brackets. -/
def text (shape : Shape) : String :=
  bracketed (shape.map Dim.text)

/-- The extents behind batch and channel. A symbol there has none. -/
def spatialExtents (shape : Shape) : List Binary64 :=
  (shape.drop leadingRank).filterMap Dim.size?

/-- The leading dims followed by new spatial extents. -/
def withSpatial (shape : Shape) (extents : List Binary64) : Shape :=
  shape.take leadingRank ++ extents.map Dim.extent

end Shape

/-- The type of a tensor. -/
structure TensorType where
  elementType : String
  shape : Shape
  deriving DecidableEq

namespace TensorType

/-- The number of dims. -/
def rank (type : TensorType) : Nat :=
  type.shape.length

end TensorType

end Pooling
