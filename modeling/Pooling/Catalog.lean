/-
This file is the catalogue of the operators: for each one the values that its unset attributes take
whatever the rank, the earliest target it compiles for, and worked cases. A case gives a node and either
the shape that comes out or a part of the message that refuses it.
-/

import Pooling.Node
import Pooling.Target

namespace Pooling

/-! ### Entries -/

/-- What a case comes out as. -/
inductive Expectation where
  | output (shape : Shape)
  | refusal (fragment : String)
  deriving DecidableEq

/-- A worked case of an operator. Without a target it holds on every one that the operator compiles for. -/
structure CatalogCase where
  name : String
  input : TensorType
  attributes : Attributes
  target : Option Target
  expectation : Expectation
  deriving DecidableEq

/-- The entry of an operator. -/
structure CatalogEntry where
  operator : Operator
  ceilMode : Bool
  excludePadding : Option Bool
  minTarget : Target
  cases : List CatalogCase
  deriving DecidableEq

/-- Attributes with nothing set but what must be. -/
def Attributes.required (kernelSizes : List Binary64) (padType : String) : Attributes :=
  { kernelSizes
    strides := none
    padType
    pad := none
    ceilMode := none
    excludePadding := none }

/-- A shape of extents only. -/
def Shape.ofExtents (extents : List Binary64) : Shape :=
  extents.map Dim.extent

namespace Catalog

/-! ### The average -/

/-- The cases of the average. -/
def avgPoolCases : List CatalogCase :=
  [ { name := "valid 1d, stride 2"
      input := ⟨"fp32", .ofExtents [1, 3, 10]⟩
      attributes := { Attributes.required [3] "valid" with strides := some [2] }
      target := none
      expectation := .output (.ofExtents [1, 3, 4]) },
    { name := "same 2d keeps extents under unit stride"
      input := ⟨"fp32", .ofExtents [2, 4, 7, 9]⟩
      attributes := .required [3, 3] "same"
      target := none
      expectation := .output (.ofExtents [2, 4, 7, 9]) },
    { name := "ceil mode drops a window starting in the padding"
      input := ⟨"fp32", .ofExtents [1, 1, 5]⟩
      attributes :=
        { Attributes.required [2] "custom" with
          strides := some [2]
          pad := some [1, 1]
          ceilMode := some true }
      target := none
      expectation := .output (.ofExtents [1, 1, 3]) },
    { name := "excluding padding leaves the shape alone"
      input := ⟨"fp16", .ofExtents [1, 2, 6, 6]⟩
      attributes :=
        { Attributes.required [2, 2] "valid" with
          strides := some [2, 2]
          excludePadding := some true }
      target := none
      expectation := .output (.ofExtents [1, 2, 3, 3]) },
    { name := "symbolic batch and channel pass through"
      input := ⟨"fp16", [.symbol "N", .symbol "C", .extent 8]⟩
      attributes := { Attributes.required [2] "valid" with strides := some [2] }
      target := none
      expectation := .output [.symbol "N", .symbol "C", .extent 4] },
    { name := "ceil mode on 3d pooling"
      input := ⟨"fp32", .ofExtents [1, 1, 4, 4, 4]⟩
      attributes := { Attributes.required [2, 2, 2] "valid" with ceilMode := some true }
      target := none
      expectation := .refusal "ceil_mode is only supported for 1D or 2D pooling" } ]

/-! ### The L2 norm -/

/-- The cases of the L2 norm. -/
def l2PoolCases : List CatalogCase :=
  [ { name := "valid 2d, stride 2"
      input := ⟨"fp32", .ofExtents [1, 3, 8, 8]⟩
      attributes := { Attributes.required [2, 2] "valid" with strides := some [2, 2] }
      target := none
      expectation := .output (.ofExtents [1, 3, 4, 4]) },
    { name := "3d pooling"
      input := ⟨"fp32", .ofExtents [1, 1, 4, 4, 4]⟩
      attributes := .required [2, 2, 2] "valid"
      target := none
      expectation := .refusal "only 1D or 2D pooling is supported" } ]

/-! ### The maximum -/

/-- The cases of the maximum. -/
def maxPoolCases : List CatalogCase :=
  [ { name := "same_lower on a later target"
      input := ⟨"fp32", .ofExtents [1, 1, 5]⟩
      attributes := .required [2] "same_lower"
      target := some .opset16
      expectation := .output (.ofExtents [1, 1, 5]) },
    { name := "same_lower on the earliest target"
      input := ⟨"fp32", .ofExtents [1, 1, 5]⟩
      attributes := .required [2] "same_lower"
      target := some .opset15
      expectation := .refusal "same_lower is not supported on target opset15" },
    { name := "pad type is case-insensitive"
      input := ⟨"fp32", .ofExtents [1, 3, 10]⟩
      attributes := { Attributes.required [3] "VALID" with strides := some [2] }
      target := none
      expectation := .output (.ofExtents [1, 3, 4]) },
    { name := "valid ceil mode without correction"
      input := ⟨"fp32", .ofExtents [1, 1, 5]⟩
      attributes :=
        { Attributes.required [3] "valid" with
          strides := some [2]
          ceilMode := some true }
      target := none
      expectation := .output (.ofExtents [1, 1, 2]) },
    { name := "kernel wider than the input yields an empty dim"
      input := ⟨"fp32", .ofExtents [1, 1, 2]⟩
      attributes := .required [3] "valid"
      target := none
      expectation := .output (.ofExtents [1, 1, 0]) },
    { name := "ceil mode with same padding"
      input := ⟨"fp32", .ofExtents [1, 1, 6]⟩
      attributes := { Attributes.required [2] "same" with ceilMode := some true }
      target := none
      expectation := .refusal "ceil_mode must be false when pad_type is same" },
    { name := "ceil mode with asymmetric padding"
      input := ⟨"fp32", .ofExtents [1, 1, 5]⟩
      attributes :=
        { Attributes.required [2] "custom" with
          pad := some [0, 1]
          ceilMode := some true }
      target := none
      expectation := .refusal "padding must be symmetric when ceil_mode is true" },
    { name := "unknown pad type"
      input := ⟨"fp32", .ofExtents [1, 1, 5]⟩
      attributes := .required [2] "reflect"
      target := none
      expectation := .refusal "unrecognized pad_type \"reflect\"" } ]

/-! ### The catalogue -/

/-- All entries. -/
def entries : List CatalogEntry :=
  [ { operator := .avgPool
      ceilMode := false
      excludePadding := some false
      minTarget := .opset15
      cases := avgPoolCases },
    { operator := .l2Pool
      ceilMode := false
      excludePadding := none
      minTarget := .opset15
      cases := l2PoolCases },
    { operator := .maxPool
      ceilMode := false
      excludePadding := none
      minTarget := .opset15
      cases := maxPoolCases } ]

/-- The entry of an operator's name. -/
def find? (name : String) : Option CatalogEntry :=
  entries.find? (·.operator.name = name)

end Catalog

end Pooling
