/-
This file runs sessions: a caller creates nodes, changes them, asks for their output types, and changes
the environment in between. The configuration is read from the environment by the first call that needs
one and then kept until it is reset; an environment that cannot be read is not remembered. The type that
an inference returns is the cached type itself, so a caller that edits it edits the cache, for as long
as the node still caches that type.
-/

import Pooling.Inference

namespace Pooling

/-! ### State -/

/-- A node of a session. `shared` says that the type it caches is the one that inference returned last. -/
structure Slot where
  node : Node
  shared : Bool
  deriving DecidableEq

/-- The state of a session. Nodes stand in the order of their creation. -/
structure Session where
  environment : Environment
  configuration : Option Configuration
  nextId : Nat
  slots : List Slot
  deriving DecidableEq

/-! ### Steps -/

/-- What is done to one node. -/
inductive NodeStep where
  | infer (options : Options)
  | explain (options : Options)
  | resolve
  | setInput (input : TensorType)
  | setAttributes (attributes : Attributes)
  | clearCache
  | setCache (outputType : Option TensorType) (outputTarget : Option String)
  | editReturned (index : Nat) (value : Dim)
  | editSource
  deriving DecidableEq

/-- One step of a session. -/
inductive Step where
  | create (operator : Operator) (input : TensorType) (attributes : Attributes)
  | node (index : Nat) (step : NodeStep)
  | setEnvironment (change : EnvironmentChange)
  | resetConfiguration
  | getConfiguration
  | resetIds
  deriving DecidableEq

/-- What a step answers. A step on a node shows the node as it is afterwards. -/
inductive Answer where
  | done
  | node (state : Node)
  | inferred (outcome : Outcome TensorType) (state : Node)
  | explained (outcome : Outcome Explanation) (state : Node)
  | resolved (pool : ResolvedPool) (state : Node)
  | configuration (result : Except ConfigurationError Configuration)
  | unknownNode

/-! ### What one node does -/

/-- Put a dim at a place of a shape. The place behind the last dim makes the shape longer. A place further
behind would leave places without a dim, which no shape has, so such an edit is outside of what is modelled
here: the shape stays as it is. -/
def Shape.assign (shape : Shape) (index : Nat) (value : Dim) : Shape :=
  if index = shape.length then shape ++ [value] else shape.set index value

namespace NodeStep

/-- The step reads the configuration, whether or not it comes to use it. -/
def readsConfiguration : NodeStep → Bool
  | infer _ => true
  | explain _ => true
  | _ => false

end NodeStep

namespace Slot

/-- The slot of a new node. -/
def ofNode (node : Node) : Slot :=
  ⟨node, false⟩

/-- Infer, provided that there is a configuration. -/
def infer (slot : Slot) (configuration : Except ConfigurationError Configuration) (options : Options) :
    Answer × Slot :=
  match configuration with
  | .error error => (.inferred (.failed (.configuration error)) slot.node, slot)
  | .ok configuration =>
    let inferred := slot.node.infer configuration options
    (.inferred inferred.1 inferred.2, ⟨inferred.2, inferred.1.result.isOk || slot.shared⟩)

/-- Explain, provided that there is a configuration. -/
def explain (slot : Slot) (configuration : Except ConfigurationError Configuration)
    (options : Options) : Answer :=
  match configuration with
  | .error error => .explained (.failed (.configuration error)) slot.node
  | .ok configuration => .explained (slot.node.explain configuration options) slot.node

/-- Change the node only. -/
def withNode (slot : Slot) (node : Node) : Answer × Slot :=
  (.node node, ⟨node, slot.shared⟩)

/-- Replace what the node caches by something that no inference has returned. -/
def withCache (slot : Slot) (outputType : Option TensorType) (outputTarget : Option String) :
    Answer × Slot :=
  let node := { slot.node with outputType, outputTarget }
  (.node node, ⟨node, false⟩)

/-- Edit the type that inference returned last, which shows in the node while the node caches it. -/
def editReturned (slot : Slot) (index : Nat) (value : Dim) : Answer × Slot :=
  let edited := slot.node.outputType.map fun type => { type with shape := type.shape.assign index value }
  slot.withNode (if slot.shared then { slot.node with outputType := edited } else slot.node)

/-- Perform a step under the configuration that there is. The lists that a node was created from are the
caller's own, so an edit of them changes nothing. -/
def perform (slot : Slot) (configuration : Except ConfigurationError Configuration) :
    NodeStep → Answer × Slot
  | .infer options => slot.infer configuration options
  | .explain options => (slot.explain configuration options, slot)
  | .resolve => (.resolved slot.node.resolve slot.node, slot)
  | .setInput input => slot.withNode { slot.node with input }
  | .setAttributes attributes => slot.withNode { slot.node with attributes }
  | .clearCache => slot.withCache none none
  | .setCache outputType outputTarget => slot.withCache outputType outputTarget
  | .editReturned index value => slot.editReturned index value
  | .editSource => slot.withNode slot.node

end Slot

/-! ### Runs -/

namespace Session

/-- The state before the first step: nothing is set, read or created. -/
def start : Session :=
  ⟨Environment.empty, none, 1, []⟩

/-- The configuration in force, which the environment gives if none was kept. -/
def readConfiguration (session : Session) : Except ConfigurationError Configuration :=
  match session.configuration with
  | some configuration => .ok configuration
  | none => session.environment.configuration

/-- The session after its configuration was read. -/
def afterReading (session : Session) : Session :=
  { session with configuration := session.readConfiguration.toOption }

/-- Perform a step of one node. -/
def nodeStep (session : Session) (index : Nat) (step : NodeStep) : Answer × Session :=
  match session.slots[index]? with
  | none => (.unknownNode, session)
  | some slot =>
    let reading := if step.readsConfiguration then session.afterReading else session
    let performed := slot.perform session.readConfiguration step
    (performed.1, { reading with slots := session.slots.set index performed.2 })

/-- Perform a step. -/
def step (session : Session) : Step → Answer × Session
  | .create operator input attributes =>
    let node := Node.create session.nextId operator input attributes
    (.node node,
      { session with nextId := session.nextId + 1, slots := session.slots ++ [Slot.ofNode node] })
  | .node index step => session.nodeStep index step
  | .setEnvironment change =>
    (.done, { session with environment := session.environment.update change })
  | .resetConfiguration => (.done, { session with configuration := none })
  | .getConfiguration => (.configuration session.readConfiguration, session.afterReading)
  | .resetIds => (.done, { session with nextId := 1 })

/-- Perform steps one after the other. -/
def run (session : Session) : List Step → List Answer × Session
  | [] => ([], session)
  | step :: rest =>
    let first := session.step step
    let others := first.2.run rest
    (first.1 :: others.1, others.2)

end Session

end Pooling
