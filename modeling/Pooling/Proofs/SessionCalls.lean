/-
This file settles what inferring and explaining a node do to a session. Both read the configuration,
and if there is none both fail alike and leave everything as it was. Explaining changes no node and
does not look at what the node caches. Inferring either returns the cached type unchecked, or it comes
to the same end as explaining and writes the same lines; only then, and only if it succeeds, it changes
the node, in the two fields of its cache and nowhere else.
-/

import Pooling.Catalog
import Pooling.Session
import Pooling.Proofs.Calls

namespace Pooling

/-! ### Steps of a node -/

namespace Session

variable {session : Session} {index : ℕ} {slot : Slot} {call : NodeStep}

/-- The nodes of a session in the order of their creation. -/
def nodes (session : Session) : List Node :=
  session.slots.map Slot.node

/-- The session once a step of a node has read what it reads. -/
def reading (session : Session) (call : NodeStep) : Session :=
  if call.readsConfiguration then session.afterReading else session

theorem step_node_of_none (missing : session.slots[index]? = none) :
    session.step (.node index call) = (.unknownNode, session) := by
  unfold step nodeStep
  simp only [missing]

/-- A step of a node reads what it reads, and then only the slot of that node can become another one. -/
theorem step_node_of_some (located : session.slots[index]? = some slot) :
    session.step (.node index call) = ((slot.perform session.readConfiguration call).1,
      { session.reading call with
        slots := session.slots.set index (slot.perform session.readConfiguration call).2 }) := by
  unfold step nodeStep
  simp only [located]
  rfl

theorem run_append (session : Session) (steps later : List Step) :
    (session.run (steps ++ later)).2 = ((session.run steps).2.run later).2 := by
  induction steps generalizing session with
  | nil => rfl
  | cons step rest inductionHypothesis => exact inductionHypothesis (session.step step).2

/-! ### Steps that read the configuration -/

theorem afterReading_of_error {error : ConfigurationError}
    (unreadable : session.readConfiguration = .error error) : session.afterReading = session := by
  have nothingKept : session.configuration = none := by
    unfold readConfiguration at unreadable
    split at unreadable
    · cases unreadable
    · assumption
  unfold afterReading
  rw [unreadable, Except.toOption, ← nothingKept]

theorem afterReading_of_ok {configuration : Configuration}
    (readable : session.readConfiguration = .ok configuration) :
    session.afterReading = { session with configuration := some configuration } := by
  unfold afterReading
  rw [readable]
  rfl

theorem step_call (located : session.slots[index]? = some slot)
    (reads : call.readsConfiguration = true) :
    session.step (.node index call) =
      ((slot.perform session.readConfiguration call).1,
        { session.afterReading with
          slots := session.slots.set index (slot.perform session.readConfiguration call).2 }) := by
  rw [step_node_of_some located, reading, if_pos reads]

/-- Answers of a call on a node that a session has. -/
theorem step_infer_answer (located : session.slots[index]? = some slot) (options : Options) :
    (session.step (.node index (.infer options))).1 =
      (slot.infer session.readConfiguration options).1 :=
  congrArg Prod.fst (step_call located rfl)

theorem step_explain_answer (located : session.slots[index]? = some slot) (options : Options) :
    (session.step (.node index (.explain options))).1 =
      slot.explain session.readConfiguration options :=
  congrArg Prod.fst (step_call located rfl)

/-- To put a slot back leaves the session as it was. -/
theorem set_located (located : session.slots[index]? = some slot) :
    session.slots.set index slot = session.slots := by
  obtain ⟨inside, rfl⟩ := List.getElem?_eq_some_iff.mp located
  exact List.set_getElem_self inside

/-- Explaining a node changes nothing but the configuration that is kept. -/
theorem step_explain (located : session.slots[index]? = some slot) (options : Options) :
    session.step (.node index (.explain options)) =
      (slot.explain session.readConfiguration options, session.afterReading) := by
  rw [step_call located rfl]
  dsimp only [Slot.perform]
  rw [set_located located]
  rfl

theorem step_infer_of_error (located : session.slots[index]? = some slot)
    {error : ConfigurationError} (unreadable : session.readConfiguration = .error error)
    (options : Options) :
    session.step (.node index (.infer options)) =
      (.inferred (.failed (.configuration error)) slot.node, session) := by
  rw [step_call located rfl, unreadable, afterReading_of_error unreadable]
  dsimp only [Slot.perform, Slot.infer]
  rw [set_located located]

theorem step_infer_of_ok (located : session.slots[index]? = some slot)
    {configuration : Configuration} (readable : session.readConfiguration = .ok configuration)
    (options : Options) :
    session.step (.node index (.infer options)) =
      (.inferred (slot.node.infer configuration options).1 (slot.node.infer configuration options).2,
        { session with
          configuration := some configuration
          slots := session.slots.set index ⟨(slot.node.infer configuration options).2,
            (slot.node.infer configuration options).1.result.isOk || slot.shared⟩ }) := by
  rw [step_call located rfl, readable, afterReading_of_ok readable]
  rfl

/-- What inferring a node makes of the nodes. -/
theorem nodes_step_infer (located : session.slots[index]? = some slot)
    {configuration : Configuration} (readable : session.readConfiguration = .ok configuration)
    (options : Options) :
    (session.step (.node index (.infer options))).2.nodes =
      session.nodes.set index (slot.node.infer configuration options).2 := by
  rw [step_infer_of_ok located readable]
  exact List.map_set

/-- A node that stays as it was leaves all nodes as they were. -/
theorem nodes_set_located (located : session.slots[index]? = some slot) :
    session.nodes.set index slot.node = session.nodes := by
  have found : session.nodes[index]? = some slot.node := by
    rw [nodes, List.getElem?_map, located, Option.map_some]
  obtain ⟨inside, same⟩ := List.getElem?_eq_some_iff.mp found
  rw [← same]
  exact List.set_getElem_self inside

/-- Replacing what a node caches does not change the configuration. -/
theorem step_setCache (located : session.slots[index]? = some slot)
    (outputType : Option TensorType) (outputTarget : Option String) :
    (session.step (.node index (.setCache outputType outputTarget))).2 =
      { session with
        slots := session.slots.set index
          ⟨{ slot.node with outputType, outputTarget }, false⟩ } := by
  rw [step_node_of_some located]
  rfl

/-- Explaining after that reads the same configuration and sees a node that differs in its cache alone. -/
theorem explain_after_setCache (located : session.slots[index]? = some slot)
    (outputType : Option TensorType) (outputTarget : Option String) (options : Options) :
    ((session.step (.node index (.setCache outputType outputTarget))).2.step
        (.node index (.explain options))).1 =
      Slot.explain ⟨{ slot.node with outputType, outputTarget }, false⟩ session.readConfiguration
        options := by
  have inside : index < session.slots.length := (List.getElem?_eq_some_iff.mp located).1
  rw [step_setCache located]
  exact step_explain_answer (List.getElem?_set_self inside) options

end Session

/-- Without a configuration, inferring and explaining a node fail alike and change nothing at all. With
one, inferring returns a type that is cached for the target of the call, whatever the node is, and
changes no node. Otherwise it does what explaining does, with the same lines: if that succeeds, the node
is changed in its cached type and its cached target and no other node is changed, and if it fails, all
nodes stay as they were. Explaining never changes a node, and it answers alike whatever is cached. -/
theorem infer_agrees_with_explain (session : Session) (index : ℕ) (slot : Slot) (options : Options)
    (located : session.slots[index]? = some slot) :
    let inferring := session.step (.node index (.infer options))
    let explaining := session.step (.node index (.explain options))
    (∀ error, session.readConfiguration = .error error →
      inferring = (.inferred (.failed (.configuration error)) slot.node, session) ∧
        explaining = (.explained (.failed (.configuration error)) slot.node, session)) ∧
    (∀ configuration, session.readConfiguration = .ok configuration →
      let target := options.target.getD configuration.target.name
      (∀ outputType,
        slot.node.outputType = some outputType → slot.node.outputTarget = some target →
          inferring.1 = .inferred ⟨.ok outputType,
              options.lines configuration (.ofCached slot.node target outputType)⟩ slot.node ∧
            inferring.2.nodes = session.nodes) ∧
      (slot.node.outputType = none ∨ slot.node.outputTarget ≠ some target →
        ∃ outcome, explaining.1 = .explained outcome slot.node ∧
          (∀ explanation, outcome.result = .ok explanation →
            let changed : Node := { slot.node with
              outputType := some explanation.outputType
              outputTarget := some target }
            inferring.1 = .inferred ⟨.ok explanation.outputType, outcome.log⟩ changed ∧
              inferring.2.nodes = session.nodes.set index changed) ∧
          ∀ failure, outcome.result = .error failure →
            inferring.1 = .inferred ⟨.error failure, outcome.log⟩ slot.node ∧
              inferring.2 = { session with configuration := some configuration })) ∧
    explaining.2.nodes = session.nodes ∧
    ∀ outputType outputTarget,
      let recached := (session.step (.node index (.setCache outputType outputTarget))).2
      ∃ outcome, explaining.1 = .explained outcome slot.node ∧
        (recached.step (.node index (.explain options))).1 =
          .explained outcome { slot.node with outputType, outputTarget } := by
  intro inferring explaining
  have explained : explaining =
      (slot.explain session.readConfiguration options, session.afterReading) :=
    Session.step_explain located options
  refine ⟨?_, ?_, ?_, ?_⟩
  · intro error unreadable
    refine ⟨Session.step_infer_of_error located unreadable options, ?_⟩
    rw [explained, unreadable, Session.afterReading_of_error unreadable]
    rfl
  · intro configuration readable target
    have inferred := Session.step_infer_of_ok located readable options
    have nodes := Session.nodes_step_infer located readable options
    refine ⟨?_, ?_⟩
    · intro outputType typeCached targetCached
      have found : slot.node.cached? (options.targetUnder configuration) = some outputType :=
        Node.cached?_eq_some_iff.mpr ⟨targetCached, typeCached⟩
      rw [Node.infer_eq_of_cached found] at inferred nodes
      exact ⟨congrArg Prod.fst inferred, nodes.trans (Session.nodes_set_located located)⟩
    · intro stale
      have missing : slot.node.cached? (options.targetUnder configuration) = none :=
        Node.cached?_eq_none_iff.mpr stale
      refine ⟨slot.node.explain configuration options, ?_, ?_, ?_⟩
      · rw [explained, readable]
        rfl
      · intro explanation succeeded changed
        rw [Node.infer_eq_of_ok missing succeeded] at inferred nodes
        exact ⟨congrArg Prod.fst inferred, nodes⟩
      · intro failure failed
        rw [Node.infer_eq_of_error missing failed] at inferred
        refine ⟨congrArg Prod.fst inferred, (congrArg Prod.snd inferred).trans ?_⟩
        show ({ session with
          configuration := some configuration
          slots := session.slots.set index slot } : Session) = _
        rw [Session.set_located located]
  · rw [explained]
    rfl
  · intro outputType outputTarget recached
    have again := Session.explain_after_setCache located outputType outputTarget options
    rw [explained]
    cases read : session.readConfiguration <;> rw [read] at again <;> exact ⟨_, rfl, again⟩

/-- A node that was inferred for a target that supports its mode. -/
def inferredNode : Node :=
  (Node.create 1 .maxPool ⟨"fp32", .ofExtents [1, 1, 5]⟩ (.required [2] "same_lower")).store "opset16"
    ⟨"fp32", .ofExtents [1, 1, 5]⟩

/-- An environment that names a target without support for the mode of the node. -/
def retargetedSession : Session :=
  ⟨⟨some " opset15", some "1"⟩, none, 2, [⟨inferredNode, true⟩]⟩

theorem failed_infer_keeps_older_cache :
    ∃ failure, retargetedSession.slots[0]? = some ⟨inferredNode, true⟩ ∧
      inferredNode.outputType = some ⟨"fp32", .ofExtents [1, 1, 5]⟩ ∧
      inferredNode.outputTarget = some "opset16" ∧
      (retargetedSession.step (.node 0 (.infer ⟨none, none⟩))).1 =
        .inferred ⟨.error failure, []⟩ inferredNode ∧
      (retargetedSession.step (.node 0 (.infer ⟨none, none⟩))).2 =
        { retargetedSession with configuration := some ⟨.opset15, true⟩ } := by
  have readable : retargetedSession.readConfiguration = .ok ⟨.opset15, true⟩ := by decide +kernel
  have silent : (inferredNode.explain ⟨.opset15, true⟩ ⟨none, none⟩).log = [] := by decide +kernel
  obtain ⟨-, onceRead, -⟩ :=
    infer_agrees_with_explain retargetedSession 0 ⟨inferredNode, true⟩ ⟨none, none⟩ rfl
  obtain ⟨-, unanswered⟩ := onceRead _ readable
  obtain ⟨outcome, explained, -, failing⟩ := unanswered (Or.inr (by decide))
  rw [Session.step_explain_answer rfl, readable] at explained
  obtain ⟨rfl, -⟩ := Answer.explained.inj explained
  obtain ⟨answer, kept⟩ := failing (.parameter ⟨.maxPool, .sameLowerTarget "opset15"⟩)
    (by decide +kernel)
  rw [silent] at answer
  exact ⟨_, rfl, rfl, rfl, answer, kept⟩

end Pooling
