/-
This file infers the output type of a node. An explanation resolves, checks and computes without looking
at what the node has cached; inference answers from the cache if the cached type was checked for the
same target, and otherwise explains and stores. A caller that gives no target or no wish about tracing
gets the configured one. Tracing adds one line to a successful call and nothing to a failed one.
-/

import Pooling.Node
import Pooling.Configuration
import Pooling.Validation

namespace Pooling

/-! ### Explanations -/

/-- How an output type comes about. -/
structure Explanation where
  resolved : ResolvedPool
  padType : PadType
  padAmounts : List Padding
  outputType : TensorType
  deriving DecidableEq

/-- Resolve the node, check it for a target and compute its output type. -/
def Node.explanation (node : Node) (target : String) : Except InvalidParameter Explanation := do
  let resolved := node.resolve
  let valid ← resolved.validate node.input target
  let parameters := resolved.parameters
  let amounts := Pooling.padAmounts valid.padType valid.extents parameters.kernelSizes
    parameters.strides parameters.pad
  let extents := outputExtents valid.padType valid.extents parameters.kernelSizes
    parameters.strides parameters.pad parameters.ceilMode
  return {
    resolved
    padType := valid.padType
    padAmounts := amounts
    outputType := ⟨node.input.elementType, node.input.shape.withSpatial extents⟩ }

/-! ### Trace lines -/

/-- A line that a traced call writes. -/
inductive TraceLine where
  | computed (id : Nat) (operator : Operator) (target : String) (input : Shape)
      (kernelSizes strides : List Binary64) (padType : PadType) (ceilMode : Bool) (output : Shape)
  | cached (id : Nat) (operator : Operator) (target : String) (output : Shape)
  deriving DecidableEq

namespace TraceLine

/-- The line of a computed output type. -/
def ofExplanation (node : Node) (target : String) (explanation : Explanation) : TraceLine :=
  let parameters := explanation.resolved.parameters
  computed node.id node.operator target node.input.shape parameters.kernelSizes parameters.strides
    explanation.padType parameters.ceilMode explanation.outputType.shape

/-- The line of a cached output type. -/
def ofCached (node : Node) (target : String) (outputType : TensorType) : TraceLine :=
  cached node.id node.operator target outputType.shape

/-- The beginning that both kinds of line share. -/
def opening (id : Nat) (operator : Operator) (target : String) : String :=
  s!"[pool-infer] node={id} op={operator.name} target={target}"

/-- The line as it is written. -/
def text : TraceLine → String
  | computed id operator target input kernelSizes strides padType ceilMode output =>
    opening id operator target ++ " in=" ++ Shape.text input ++ " kernel=" ++ numbersText kernelSizes ++
      " strides=" ++ numbersText strides ++ s!" pad_type={padType.name} ceil={ceilMode} out=" ++
      Shape.text output
  | cached id operator target output =>
    opening id operator target ++ " cached out=" ++ Shape.text output

end TraceLine

/-! ### Calls -/

/-- What a caller may choose for one call. -/
structure Options where
  target : Option String
  trace : Option Bool
  deriving DecidableEq

namespace Options

/-- The target of a call under a configuration. -/
def targetUnder (options : Options) (configuration : Configuration) : String :=
  options.target.getD configuration.target.name

/-- Whether a call under a configuration is traced. -/
def traceUnder (options : Options) (configuration : Configuration) : Bool :=
  options.trace.getD configuration.trace

/-- The lines that a successful call writes. -/
def lines (options : Options) (configuration : Configuration) (line : TraceLine) : List TraceLine :=
  if options.traceUnder configuration then [line] else []

end Options

/-- Why a call fails. -/
inductive Failure where
  | configuration (error : ConfigurationError)
  | parameter (error : InvalidParameter)
  deriving DecidableEq

/-- The text of the failure. -/
def Failure.message : Failure → String
  | configuration error => error.message
  | parameter error => error.message

/-- What a call answers and the lines it writes. -/
structure Outcome (Result : Type) where
  result : Except Failure Result
  log : List TraceLine

namespace Outcome

/-- A failed call writes nothing. -/
def failed {Result : Type} (failure : Failure) : Outcome Result :=
  ⟨.error failure, []⟩

/-- The outcome with its result projected. -/
def map {First Second : Type} (project : First → Second) (outcome : Outcome First) : Outcome Second :=
  ⟨outcome.result.map project, outcome.log⟩

end Outcome

namespace Node

/-- Explain the node. -/
def explain (node : Node) (configuration : Configuration) (options : Options) : Outcome Explanation :=
  let target := options.targetUnder configuration
  match node.explanation target with
  | .error error => .failed (.parameter error)
  | .ok explanation =>
    ⟨.ok explanation, options.lines configuration (.ofExplanation node target explanation)⟩

/-- Infer the output type of the node, and give the node as it is afterwards. -/
def infer (node : Node) (configuration : Configuration) (options : Options) :
    Outcome TensorType × Node :=
  let target := options.targetUnder configuration
  match node.cached? target with
  | some outputType =>
    (⟨.ok outputType, options.lines configuration (.ofCached node target outputType)⟩, node)
  | none =>
    let outcome := (node.explain configuration options).map Explanation.outputType
    match outcome.result with
    | .ok outputType => (outcome, node.store target outputType)
    | .error _ => (outcome, node)

end Node

end Pooling
