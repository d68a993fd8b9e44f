/-
This file defines pooling nodes. A node owns its input type and its attributes, so nothing a caller does
later to the lists it was created from reaches it. The two output fields hold what was inferred last and
the target it was checked for; they are apart, because either can be set alone.
-/

import Pooling.TensorType
import Pooling.Attributes

namespace Pooling

/-- A pooling operation in a graph. -/
structure Node where
  id : Nat
  operator : Operator
  input : TensorType
  attributes : Attributes
  outputType : Option TensorType
  outputTarget : Option String
  deriving DecidableEq

/-- The attributes as a node of the operator keeps them: what only the average makes use of is left out
elsewhere. -/
def Attributes.keptBy (attributes : Attributes) (operator : Operator) : Attributes :=
  if operator = .avgPool then attributes else { attributes with excludePadding := none }

namespace Node

/-- A new node, about whose output nothing is known. -/
def create (id : Nat) (operator : Operator) (input : TensorType) (attributes : Attributes) : Node :=
  { id
    operator
    input
    attributes := attributes.keptBy operator
    outputType := none
    outputTarget := none }

/-- The node with every unset attribute filled in. -/
def resolve (node : Node) : ResolvedPool :=
  ⟨node.operator.variant node.attributes, node.attributes.resolve node.input.rank⟩

/-- The output type, if the node has one that was checked for the target. -/
def cached? (node : Node) (target : String) : Option TensorType :=
  if node.outputTarget = some target then node.outputType else none

/-- The node with an inferred output type and its target. -/
def store (node : Node) (target : String) (outputType : TensorType) : Node :=
  { node with outputType := some outputType, outputTarget := some target }

end Node

end Pooling
