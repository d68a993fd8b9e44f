/-
This file settles that tracing is observation only. A session without tracing is what is left of a session
when the wishes of its callers about tracing, the variable that turns it on and the lines are taken out. One
step of the session then answers and does what the same step does with tracing, as far as that is left, and
so does a run of any length. Two runs that differ in tracing alone therefore differ in their lines alone,
and in what they say of the tracing that is configured. The lines themselves are one for every call that is
traced and succeeds, and none for any other. A line reads as one of two texts, of which one belongs to
answers from the cache; the two part where they would go on to the cached type or to the input.
-/

import Pooling.Catalog
import Pooling.Proofs.Acceptance
import Pooling.Proofs.SessionCalls

namespace Pooling

/-! ### What is left without tracing -/

/-- The options without a wish about tracing. -/
def Options.untraced (options : Options) : Options :=
  { options with trace := none }

/-- The step with the trace of its options left out. -/
def NodeStep.untraced : NodeStep → NodeStep
  | .infer options => .infer options.untraced
  | .explain options => .explain options.untraced
  | step => step

/-- The change of the target alone. -/
def EnvironmentChange.untraced (change : EnvironmentChange) : EnvironmentChange :=
  { change with trace := .keep }

/-- The step without all that concerns tracing. -/
def Step.untraced : Step → Step
  | .node index step => .node index step.untraced
  | .setEnvironment change => .setEnvironment change.untraced
  | step => step

/-- The environment in which tracing is not set. -/
def Environment.untraced (environment : Environment) : Environment :=
  { environment with trace := none }

/-- The configuration of the target alone. -/
def Configuration.untraced (configuration : Configuration) : Configuration :=
  { configuration with trace := false }

/-- The session in which tracing is neither set nor configured. -/
def Session.untraced (session : Session) : Session :=
  { session with
    environment := session.environment.untraced
    configuration := session.configuration.map Configuration.untraced }

/-- The result without the lines. -/
def Outcome.untraced {Result : Type} (outcome : Outcome Result) : Outcome Result :=
  { outcome with log := [] }

/-- The answer without the lines, and without the tracing of a configuration. -/
def Answer.untraced : Answer → Answer
  | .inferred outcome state => .inferred outcome.untraced state
  | .explained outcome state => .explained outcome.untraced state
  | .configuration result => .configuration (result.map Configuration.untraced)
  | answer => answer

/-! ### Calls without tracing -/

section Calls

variable (configuration : Configuration) (options : Options)

theorem Options.targetUnder_untraced :
    options.untraced.targetUnder configuration.untraced = options.targetUnder configuration :=
  rfl

theorem Options.lines_untraced (line : TraceLine) :
    options.untraced.lines configuration.untraced line = [] :=
  rfl

theorem Node.explain_untraced (node : Node) :
    node.explain configuration.untraced options.untraced =
      (node.explain configuration options).untraced := by
  unfold explain
  dsimp only [Options.targetUnder_untraced, Options.lines_untraced]
  cases node.explanation (options.targetUnder configuration) <;> rfl

theorem Node.infer_untraced (node : Node) :
    node.infer configuration.untraced options.untraced =
      ((node.infer configuration options).1.untraced, (node.infer configuration options).2) := by
  unfold infer
  rw [explain_untraced]
  dsimp only [Options.targetUnder_untraced, Options.lines_untraced]
  cases node.cached? (options.targetUnder configuration) with
  | some outputType => rfl
  | none =>
    cases answered : (node.explain configuration options).result <;>
      simp only [Outcome.map, Outcome.untraced, answered, Except.map]

end Calls

/-! ### Steps without tracing -/

namespace Slot

variable (slot : Slot) (configuration : Except ConfigurationError Configuration)

theorem perform_untraced (step : NodeStep) :
    slot.perform (configuration.map Configuration.untraced) step.untraced =
      ((slot.perform configuration step).1.untraced, (slot.perform configuration step).2) := by
  cases step with
  | infer options =>
    cases configuration with
    | error error => rfl
    | ok configuration =>
      show slot.infer (.ok configuration.untraced) options.untraced = _
      unfold Slot.infer
      dsimp only
      rw [Node.infer_untraced]
      rfl
  | explain options =>
    cases configuration with
    | error error => rfl
    | ok configuration =>
      show (slot.explain (.ok configuration.untraced) options.untraced, slot) = _
      unfold Slot.explain
      dsimp only
      rw [Node.explain_untraced]
      rfl
  | _ => rfl

end Slot

theorem NodeStep.readsConfiguration_untraced (step : NodeStep) :
    step.untraced.readsConfiguration = step.readsConfiguration := by
  cases step <;> rfl

theorem Environment.configuration_untraced (environment : Environment) :
    environment.untraced.configuration = environment.configuration.map Configuration.untraced := by
  unfold configuration
  cases named : environment.defaultTarget <;>
    simp only [show environment.untraced.defaultTarget = _ from named] <;> rfl

namespace Session

variable (session : Session)

theorem readConfiguration_untraced :
    session.untraced.readConfiguration =
      session.readConfiguration.map Configuration.untraced := by
  unfold readConfiguration untraced
  cases session.configuration with
  | some configuration => rfl
  | none => exact session.environment.configuration_untraced

theorem afterReading_untraced : session.untraced.afterReading = session.afterReading.untraced := by
  unfold afterReading
  rw [readConfiguration_untraced]
  cases session.readConfiguration <;> rfl

theorem reading_untraced (step : NodeStep) :
    session.untraced.reading step.untraced = (session.reading step).untraced := by
  unfold reading
  rw [step.readsConfiguration_untraced, afterReading_untraced]
  split <;> rfl

theorem step_node_untraced (index : ℕ) (step : NodeStep) :
    session.untraced.step (.node index step.untraced) =
      ((session.step (.node index step)).1.untraced, (session.step (.node index step)).2.untraced) := by
  cases located : session.slots[index]? with
  | none =>
    have alsoMissing : session.untraced.slots[index]? = none := located
    rw [step_node_of_none located, step_node_of_none alsoMissing]
    rfl
  | some slot =>
    have alsoLocated : session.untraced.slots[index]? = some slot := located
    rw [step_node_of_some located, step_node_of_some alsoLocated, readConfiguration_untraced,
      Slot.perform_untraced, reading_untraced]
    rfl

/-- Without tracing, a step answers what is left of its answer and does what is left of what it does. -/
theorem step_untraced (step : Step) :
    session.untraced.step step.untraced =
      ((session.step step).1.untraced, (session.step step).2.untraced) := by
  cases step with
  | node index step => exact session.step_node_untraced index step
  | getConfiguration =>
    show (Answer.configuration session.untraced.readConfiguration, session.untraced.afterReading) = _
    rw [readConfiguration_untraced, afterReading_untraced]
    rfl
  | _ => rfl

theorem run_untraced (steps : List Step) :
    session.untraced.run (steps.map Step.untraced) =
      ((session.run steps).1.map Answer.untraced, (session.run steps).2.untraced) := by
  induction steps generalizing session with
  | nil => rfl
  | cons step rest inductionHypothesis =>
    rw [List.map_cons]
    unfold run
    dsimp only
    rw [step_untraced, inductionHypothesis]
    rfl

/-- Steps that differ in tracing alone give answers that differ in it alone, and the same nodes. -/
theorem run_of_alike {first second : List Step}
    (alike : first.map Step.untraced = second.map Step.untraced) :
    (session.run first).1.map Answer.untraced = (session.run second).1.map Answer.untraced ∧
      (session.run first).2.nodes = (session.run second).2.nodes := by
  have firstRun := session.run_untraced first
  rw [alike, session.run_untraced second] at firstRun
  obtain ⟨answers, sessions⟩ := Prod.mk.inj firstRun
  refine ⟨answers.symm, ?_⟩
  show (session.run first).2.untraced.nodes = (session.run second).2.untraced.nodes
  rw [sessions]

end Session

/-! ### Texts of lines -/

namespace Node

/-- What a line about a call on the node says first. -/
def lineStart (node : Node) (target : String) : String :=
  "[pool-infer] node=" ++ toString node.id ++ " op=" ++ node.operator.name ++ " target=" ++ target

/-- The text about an output that is cached for the target. -/
def cachedText (node : Node) (target : String) (output : TensorType) : String :=
  node.lineStart target ++ " cached out=" ++ Shape.text output.shape

/-- The text about an output that is computed for the target. -/
def computedText (node : Node) (target : String) (output : TensorType) : String :=
  node.lineStart target ++ " in=" ++ Shape.text node.input.shape ++
    " kernel=" ++ numbersText node.attributes.kernelSizes ++
    " strides=" ++ numbersText
      (node.attributes.strides.getD (List.replicate (node.input.rank - 2) 1)) ++
    " pad_type=" ++ node.attributes.padType.toLower ++
    " ceil=" ++ (if node.attributes.ceilMode = some true then "true" else "false") ++
    " out=" ++ Shape.text output.shape

theorem cachedText_ne_computedText (node : Node) (target : String) (output other : TensorType) :
    node.cachedText target output ≠ node.computedText target other := by
  intro same
  have characters := congrArg String.toList same
  unfold cachedText computedText at characters
  -- both go on behind the same start, with a blank and then with different letters
  simp only [String.append_assoc, String.toList_append, List.append_cancel_left_eq] at characters
  have letters := congrArg (fun list => list[1]?) characters
  exact absurd (Option.some_inj.mp letters) (by decide)

theorem text_ofCached (node : Node) (target : String) (output : TensorType) :
    (TraceLine.ofCached node target output).text = node.cachedText target output :=
  rfl

/-- The line of an explanation shows the attributes of the node, with the mode in lower case. -/
theorem text_ofExplanation {node : Node} {target : String} {explanation : Explanation}
    (computed : node.explanation target = .ok explanation) :
    (TraceLine.ofExplanation node target explanation).text =
      node.computedText target explanation.outputType := by
  obtain ⟨valid, validated, rfl⟩ := explanation_eq_ok_iff.mp computed
  obtain ⟨-, named, -⟩ := (validate_eq_ok_iff isLowerCasing_toLower _ _ _ valid).mp validated
  have mode : node.attributes.padType.toLower = valid.padType.name := named
  have rounding : toString node.resolve.parameters.ceilMode =
      if node.attributes.ceilMode = some true then "true" else "false" := by
    show toString (node.attributes.ceilMode.getD false) = _
    rcases node.attributes.ceilMode with _ | _ | _ <;> rfl
  have plain (text : String) : toString text = text := rfl
  dsimp only [TraceLine.ofExplanation, TraceLine.text, TraceLine.opening]
  unfold computedText lineStart
  rw [mode, ← rounding]
  simp only [plain, String.append_assoc]
  rfl

end Node

/-! ### Lines -/

/-- The line reports an answer from the cache. -/
def TraceLine.isCached : TraceLine → Bool
  | computed .. => false
  | cached .. => true

/-- A success of a traced call has exactly one line, which reports an answer from the cache if that is
where it comes from. Every other outcome has none. -/
def Outcome.LogsOnce {Result : Type} (outcome : Outcome Result) (traced cached : Prop) : Prop :=
  ((∃ value, outcome.result = .ok value) ∧ traced →
      ∃ line, outcome.log = [line] ∧ (line.isCached = true ↔ cached)) ∧
    (¬ ((∃ value, outcome.result = .ok value) ∧ traced) → outcome.log = [])

namespace Outcome

variable {Result : Type} {traced cached : Prop}

theorem logsOnce_failed (failure : Failure) :
    (failed failure : Outcome Result).LogsOnce traced cached := by
  refine ⟨?_, fun _ => rfl⟩
  rintro ⟨⟨value, succeeded⟩, -⟩
  cases succeeded

/-- What the options make of a line is what a success of the call has to log. -/
theorem logsOnce_lines (configuration : Configuration) (options : Options) {line : TraceLine}
    {value : Result} (form : line.isCached = true ↔ cached) :
    (⟨.ok value, options.lines configuration line⟩ : Outcome Result).LogsOnce
      (options.traceUnder configuration = true) cached := by
  refine ⟨fun both => ⟨line, if_pos both.2, form⟩, fun notBoth => if_neg fun traces => ?_⟩
  exact notBoth ⟨⟨value, rfl⟩, traces⟩

/-- Whatever the outcome is, what it writes is the text that belongs to that. -/
def Writes (outcome : Outcome Result) (textOf : Result → String) : Prop :=
  ∀ value, outcome.result = .ok value → ∀ line ∈ outcome.log, line.text = textOf value

theorem writes_failed (failure : Failure) (textOf : Result → String) :
    (failed failure : Outcome Result).Writes textOf := by
  intro value succeeded
  cases succeeded

theorem writes_lines (configuration : Configuration) (options : Options) {line : TraceLine}
    {value : Result} {textOf : Result → String} (written : line.text = textOf value) :
    (⟨.ok value, options.lines configuration line⟩ : Outcome Result).Writes textOf := by
  intro other same found member
  obtain rfl := Except.ok.inj same
  unfold Options.lines at member
  split at member
  · rw [List.mem_singleton.mp member, written]
  · cases member

end Outcome

namespace Node

variable (node : Node) (configuration : Configuration) (options : Options)

theorem explain_logsOnce : (node.explain configuration options).LogsOnce
    (options.traceUnder configuration = true) False := by
  unfold explain
  dsimp only
  cases node.explanation (options.targetUnder configuration) with
  | error error => exact Outcome.logsOnce_failed _
  | ok explanation =>
    exact Outcome.logsOnce_lines configuration options (iff_of_false Bool.false_ne_true not_false)

theorem infer_logsOnce : (node.infer configuration options).1.LogsOnce
    (options.traceUnder configuration = true)
    (∃ outputType, node.cached? (options.targetUnder configuration) = some outputType) := by
  unfold infer explain
  dsimp only
  cases node.cached? (options.targetUnder configuration) with
  | some outputType =>
    exact Outcome.logsOnce_lines configuration options (iff_of_true rfl ⟨outputType, rfl⟩)
  | none =>
    have missing : ¬ ∃ outputType : TensorType, none = some outputType := by simp
    cases node.explanation (options.targetUnder configuration) with
    | error error => exact Outcome.logsOnce_failed _
    | ok explanation =>
      exact Outcome.logsOnce_lines configuration options (iff_of_false Bool.false_ne_true missing)

theorem explain_writes : (node.explain configuration options).Writes fun explanation =>
    node.computedText (options.targetUnder configuration) explanation.outputType := by
  unfold explain
  dsimp only
  cases computed : node.explanation (options.targetUnder configuration) with
  | error error => exact Outcome.writes_failed _ _
  | ok explanation => exact Outcome.writes_lines configuration options (text_ofExplanation computed)

variable {node configuration options}

theorem infer_writes_of_cached
    (cached : ∃ outputType, node.cached? (options.targetUnder configuration) = some outputType) :
    (node.infer configuration options).1.Writes
      (node.cachedText (options.targetUnder configuration)) := by
  obtain ⟨outputType, found⟩ := cached
  rw [infer_eq_of_cached found]
  exact Outcome.writes_lines configuration options (node.text_ofCached _ outputType)

theorem infer_writes_of_uncached
    (uncached : ¬ ∃ outputType, node.cached? (options.targetUnder configuration) = some outputType) :
    (node.infer configuration options).1.Writes
      (node.computedText (options.targetUnder configuration)) := by
  have missing : node.cached? (options.targetUnder configuration) = none :=
    Option.eq_none_iff_forall_ne_some.mpr fun outputType found => uncached ⟨outputType, found⟩
  cases answered : (node.explain configuration options).result with
  | error failure =>
    rw [infer_eq_of_error missing answered]
    intro value succeeded
    cases succeeded
  | ok explanation =>
    rw [infer_eq_of_ok missing answered]
    intro value succeeded line member
    obtain rfl := Except.ok.inj succeeded
    exact node.explain_writes configuration options explanation answered line member

end Node

namespace Session

variable {session : Session} {configuration : Configuration} {options : Options}

/-- The call is traced: so its options say, or else the configuration in force. -/
def Traces (session : Session) (options : Options) : Prop :=
  ∃ configuration, session.readConfiguration = .ok configuration ∧
    options.trace.getD configuration.trace = true

/-- The node has a type cached for the target of the call. -/
def Caches (session : Session) (node : Node) (options : Options) : Prop :=
  ∃ configuration outputType, session.readConfiguration = .ok configuration ∧
    node.outputType = some outputType ∧
    node.outputTarget = some (options.target.getD configuration.target.name)

theorem traces_iff (readable : session.readConfiguration = .ok configuration) :
    session.Traces options ↔ options.traceUnder configuration = true := by
  unfold Traces
  rw [readable]
  constructor
  · rintro ⟨other, same, traces⟩
    obtain rfl := Except.ok.inj same
    exact traces
  · intro traces
    exact ⟨configuration, rfl, traces⟩

theorem caches_iff (readable : session.readConfiguration = .ok configuration) {node : Node} :
    session.Caches node options ↔
      ∃ outputType, node.cached? (options.targetUnder configuration) = some outputType := by
  unfold Caches
  rw [readable]
  constructor
  · rintro ⟨other, outputType, same, typeCached, targetCached⟩
    obtain rfl := Except.ok.inj same
    exact ⟨outputType, Node.cached?_eq_some_iff.mpr ⟨targetCached, typeCached⟩⟩
  · rintro ⟨outputType, found⟩
    obtain ⟨targetCached, typeCached⟩ := Node.cached?_eq_some_iff.mp found
    exact ⟨configuration, outputType, rfl, typeCached, targetCached⟩

end Session

/-- Two runs with steps that differ in tracing alone give the same answers and leave the same nodes, apart
from the lines they write and from the tracing in a configuration that is asked for. In every run, a call
that is traced and succeeds writes one line, which reports an answer from the cache exactly if an inference
takes its answer from there, and a call that fails or is not traced writes none. What is written is the
text that belongs to the one kind of answer or to the other, and no text belongs to both. -/
theorem tracing_is_observation_only :
    (∀ first second : List Step, first.map Step.untraced = second.map Step.untraced →
      (Session.start.run first).1.map Answer.untraced =
          (Session.start.run second).1.map Answer.untraced ∧
        (Session.start.run first).2.nodes = (Session.start.run second).2.nodes) ∧
    ∀ (history : List Step) (index : ℕ) (slot : Slot) (options : Options),
      let session := (Session.start.run history).2
      session.slots[index]? = some slot →
        (∃ outcome after,
          (session.step (.node index (.infer options))).1 = .inferred outcome after ∧
            outcome.LogsOnce (session.Traces options) (session.Caches slot.node options) ∧
            ∀ configuration, session.readConfiguration = .ok configuration →
              let target := options.target.getD configuration.target.name
              (session.Caches slot.node options → outcome.Writes (slot.node.cachedText target)) ∧
                (¬ session.Caches slot.node options →
                  outcome.Writes (slot.node.computedText target))) ∧
        (∃ outcome,
          (session.step (.node index (.explain options))).1 = .explained outcome slot.node ∧
            outcome.LogsOnce (session.Traces options) False ∧
            ∀ configuration, session.readConfiguration = .ok configuration →
              let target := options.target.getD configuration.target.name
              outcome.Writes fun explanation =>
                slot.node.computedText target explanation.outputType) ∧
        ∀ target output other,
          slot.node.cachedText target output ≠ slot.node.computedText target other := by
  refine ⟨fun first second => Session.start.run_of_alike, ?_⟩
  intro history index slot options session located
  rw [Session.step_infer_answer located, Session.step_explain_answer located]
  cases readable : session.readConfiguration with
  | error error =>
    exact ⟨⟨_, _, rfl, Outcome.logsOnce_failed _, fun _ same => nomatch same⟩,
      ⟨_, rfl, Outcome.logsOnce_failed _, fun _ same => nomatch same⟩,
      slot.node.cachedText_ne_computedText⟩
  | ok configuration =>
    rw [Session.traces_iff readable, Session.caches_iff readable]
    refine ⟨⟨_, _, rfl, slot.node.infer_logsOnce configuration options, ?_⟩,
      ⟨_, rfl, slot.node.explain_logsOnce configuration options, ?_⟩,
      slot.node.cachedText_ne_computedText⟩
    · intro other same
      obtain rfl := Except.ok.inj same
      exact ⟨Node.infer_writes_of_cached, Node.infer_writes_of_uncached⟩
    · intro other same
      obtain rfl := Except.ok.inj same
      exact slot.node.explain_writes configuration options

/-- Attributes of the node that both runs create. -/
def tracedAttributes : Attributes :=
  { Attributes.required [2, 2] "valid" with strides := some [2, 2] }

/-- The environment turns tracing on, one call of the three turns it off, and a node is changed in between.
-/
def tracedRun : List Step :=
  [.setEnvironment ⟨.set "opset17", .set "1"⟩,
    .create .l2Pool ⟨"fp32", [.symbol "N", .extent 3, .extent 8, .extent 8]⟩ tracedAttributes,
    .node 0 (.infer ⟨none, none⟩),
    .node 0 (.explain ⟨some "opset15", some false⟩),
    .node 0 (.setInput ⟨"fp16", [.symbol "N", .extent 3, .extent 6, .extent 8]⟩),
    .node 0 (.infer ⟨some "opset16", none⟩),
    .getConfiguration]

/-- The same steps without tracing, apart from one call that turns it on. -/
def silentRun : List Step :=
  [.setEnvironment ⟨.set "opset17", .set "on"⟩,
    .create .l2Pool ⟨"fp32", [.symbol "N", .extent 3, .extent 8, .extent 8]⟩ tracedAttributes,
    .node 0 (.infer ⟨none, some false⟩),
    .node 0 (.explain ⟨some "opset15", some true⟩),
    .node 0 (.setInput ⟨"fp16", [.symbol "N", .extent 3, .extent 6, .extent 8]⟩),
    .node 0 (.infer ⟨some "opset16", none⟩),
    .getConfiguration]

/-- The slot of the node after either run. -/
def tracedSlot : Slot :=
  ⟨(Node.create 1 .l2Pool ⟨"fp16", [.symbol "N", .extent 3, .extent 6, .extent 8]⟩
    tracedAttributes).store "opset16" ⟨"fp16", [.symbol "N", .extent 3, .extent 3, .extent 4]⟩, true⟩

theorem traced_run_differs_in_lines :
    tracedRun.map Step.untraced = silentRun.map Step.untraced ∧
      (Session.start.run tracedRun).1.map Answer.untraced =
        (Session.start.run silentRun).1.map Answer.untraced ∧
      ∃ outcome after line,
        ((Session.start.run tracedRun).2.step (.node 0 (.infer ⟨some "opset16", none⟩))).1 =
            .inferred outcome after ∧
          outcome.log = [line] ∧ line.isCached = true ∧
          line.text = "[pool-infer] node=1 op=l2_pool target=opset16 cached out=[N, 3, 3, 4]" := by
  have alike : tracedRun.map Step.untraced = silentRun.map Step.untraced := rfl
  have located : (Session.start.run tracedRun).2.slots[0]? = some tracedSlot := by decide +kernel
  have readable : (Session.start.run tracedRun).2.readConfiguration = .ok ⟨.opset17, true⟩ := by
    decide +kernel
  obtain ⟨runs, calls⟩ := tracing_is_observation_only
  obtain ⟨⟨outcome, after, answer, ⟨traced, -⟩, texts⟩, -⟩ :=
    calls tracedRun 0 tracedSlot ⟨some "opset16", none⟩ located
  have inferred : Answer.inferred outcome after = _ :=
    answer.symm.trans (Session.step_infer_answer located _)
  rw [readable] at inferred
  obtain ⟨rfl, -⟩ := Answer.inferred.inj inferred
  obtain ⟨line, logged, form⟩ := traced ⟨⟨_, rfl⟩, ⟨_, readable, rfl⟩⟩
  have cached : (Session.start.run tracedRun).2.Caches tracedSlot.node ⟨some "opset16", none⟩ :=
    ⟨_, _, readable, rfl, rfl⟩
  have written := (texts _ readable).1 cached _ rfl line (logged ▸ List.mem_singleton_self line)
  exact ⟨alike, (runs tracedRun silentRun alike).1, _, after, line, answer, logged, form.mpr cached,
    written.trans (by decide +kernel)⟩

end Pooling
