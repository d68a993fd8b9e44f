/-
This file settles what a change of the target does to a node. Only the earliest target is special: after
every other check was passed, it refuses one padding mode. All later targets come to the same end, be it an
explanation or the fault of the same check. So a node that can be inferred for a target can be inferred for
every later one, with the same type, and the fault on a later target is the fault on an earlier one. A node
may be retargeted as often as one likes: the inferences that succeed all give the same type.
-/

import Pooling.Catalog
import Pooling.Proofs.EnvironmentConfiguration
import Pooling.Proofs.CacheTrust
import Pooling.Proofs.Conditions

namespace Pooling

/-! ### The check of the target -/

/-- The number of the operator set that a target is named after. -/
def Target.number : Target → ℕ
  | opset15 => 15
  | opset16 => 16
  | opset17 => 17
  | opset18 => 18

/-- The targets come out in the order of their numbers. -/
theorem Target.compare_le_zero_iff (first second : Target) :
    compare first.name second.name ≤ 0 ↔ first.number ≤ second.number := by
  cases first <;> cases second <;> decide

/-- No other target is as early as the earliest one. -/
theorem Target.name_eq_of_compare {first second : Target}
    (ordered : compare first.name second.name ≤ 0) (early : second.name = "opset15") :
    first.name = "opset15" := by
  obtain rfl : second = opset15 := name_injective early
  rw [compare_le_zero_iff] at ordered
  cases first with
  | opset15 => rfl
  | _ => exact absurd ordered (by decide)

/-- A validation goes on where one for the latest target ends, with the check of its own target. -/
theorem ResolvedPool.validate_eq_latest (pool : ResolvedPool) (input : TensorType) (target : String) :
    pool.validate input target = pool.validate input "opset18" >>= fun valid =>
      pool.operator.report (valid.padType.targetFault? target) >>= fun _ => .ok valid := by
  have unchecked (padType : PadType) : padType.targetFault? "opset18" = none :=
    padType.targetFault?_of_late (by decide)
  simp only [validate, unchecked, Operator.report, bind_assoc, pure_bind]
  rfl

namespace Node

variable {node : Node} {target : String} {explanation : Explanation}

theorem explanation_eq_latest (node : Node) (target : String) :
    node.explanation target = node.explanation "opset18" >>= fun explanation =>
      node.operator.report (explanation.padType.targetFault? target) >>= fun _ => .ok explanation := by
  rw [explanation_eq, explanation_eq, ResolvedPool.validate_eq_latest, Node.operator_resolve]
  cases node.resolve.validate node.input "opset18" with
  | error error => rfl
  | ok valid =>
    show Except.map node.explained (node.operator.report (valid.padType.targetFault? target) >>= _) =
      (node.operator.report (valid.padType.targetFault? target) >>= _)
    cases valid.padType.targetFault? target <;> rfl

/-- An explanation for the latest target is one for every target that has no fault to find in its mode. -/
theorem explanation_eq_of_supported
    (supported : ∀ explanation, node.explanation "opset18" = .ok explanation →
      explanation.padType.targetFault? target = none) :
    node.explanation target = node.explanation "opset18" := by
  rw [explanation_eq_latest]
  cases latest : node.explanation "opset18" with
  | error error => rfl
  | ok explanation =>
    show (node.operator.report (explanation.padType.targetFault? target) >>= _) = _
    rw [supported explanation latest]
    rfl

theorem explanation_eq_of_late (late : target ≠ "opset15") :
    node.explanation target = node.explanation "opset18" :=
  explanation_eq_of_supported fun explanation _ => explanation.padType.targetFault?_of_late late

/-- The earliest target gives the same as the others, unless they accept the mode that it refuses. -/
theorem explanation_earliest
    (supported : ∀ explanation, node.explanation "opset18" = .ok explanation →
      explanation.padType ≠ .sameLower) :
    node.explanation "opset15" = node.explanation "opset18" :=
  explanation_eq_of_supported fun explanation latest =>
    if_neg fun both => supported explanation latest both.2

theorem explanation_earliest_of_sameLower (latest : node.explanation "opset18" = .ok explanation)
    (unsupported : explanation.padType = .sameLower) :
    node.explanation "opset15" = .error ⟨node.operator, .sameLowerTarget "opset15"⟩ := by
  rw [explanation_eq_latest, latest]
  show (node.operator.report (explanation.padType.targetFault? "opset15") >>= _) = _
  rw [unsupported]
  rfl

/-- An explanation for one target is one for the latest target. -/
theorem explanation_latest_of_ok (accepted : node.explanation target = .ok explanation) :
    node.explanation "opset18" = .ok explanation := by
  rw [explanation_eq_latest] at accepted
  cases latest : node.explanation "opset18" with
  | error error =>
    rw [latest] at accepted
    cases accepted
  | ok other =>
    rw [latest] at accepted
    change (node.operator.report (other.padType.targetFault? target) >>= _) = _ at accepted
    cases reported : other.padType.targetFault? target with
    | none =>
      rw [reported] at accepted
      exact accepted
    | some fault =>
      rw [reported] at accepted
      cases accepted

/-- What fails for the latest target fails for every target. -/
theorem explanation_of_latest_error {error : InvalidParameter}
    (refused : node.explanation "opset18" = .error error) :
    node.explanation target = .error error := by
  rw [explanation_eq_latest, refused]
  rfl

/-- From a target to a later one, explanations stay; from there back, errors do. -/
theorem explanation_of_compare (node : Node) {earlier later : Target}
    (ordered : Target.compare earlier.name later.name ≤ 0) :
    (∀ explanation, node.explanation earlier.name = .ok explanation →
        node.explanation later.name = .ok explanation) ∧
      ∀ error, node.explanation later.name = .error error →
        node.explanation earlier.name = .error error := by
  by_cases early : later.name = "opset15"
  · rw [Target.name_eq_of_compare ordered early, early]
    exact ⟨fun _ accepted => accepted, fun _ refused => refused⟩
  · rw [explanation_eq_of_late early]
    exact ⟨fun _ => explanation_latest_of_ok, fun _ => explanation_of_latest_error⟩

end Node

/-! ### One type under all targets -/

/-- The node has the output type on some target. -/
def Node.Gives (node : Node) (outputType : TensorType) : Prop :=
  ∃ target explanation, node.explanation target = .ok explanation ∧
    explanation.outputType = outputType

namespace Node

variable {node : Node}

theorem Gives.unique {outputType other : TensorType} (first : node.Gives outputType)
    (second : node.Gives other) : outputType = other := by
  obtain ⟨target, explanation, accepted, rfl⟩ := first
  obtain ⟨otherTarget, otherExplanation, otherAccepted, rfl⟩ := second
  have same := (explanation_latest_of_ok accepted).symm.trans
    (explanation_latest_of_ok otherAccepted)
  rw [Except.ok.inj same]

/-- What inferring stores does not bear on explanations. -/
theorem explanation_infer (node : Node) (configuration : Configuration) (options : Options)
    (target : String) :
    (node.infer configuration options).2.explanation target = node.explanation target := by
  unfold infer
  dsimp only
  split
  · rfl
  · split <;> rfl

/-- With a sound cache, an inference succeeds exactly if the target explains the node, with its type. -/
theorem CacheSound.infer_eq_ok_iff (sound : node.CacheSound) {configuration : Configuration}
    {options : Options} {outputType : TensorType} :
    (node.infer configuration options).1.result = .ok outputType ↔
      ∃ explanation, node.explanation (options.targetUnder configuration) = .ok explanation ∧
        explanation.outputType = outputType := by
  rw [sound.infer_result, explain_result]
  cases node.explanation (options.targetUnder configuration) <;> simp [Except.mapError, Except.map]

/-- With a sound cache, an inference fails exactly if the target has an error for the node, with it. -/
theorem CacheSound.infer_eq_error_iff (sound : node.CacheSound) {configuration : Configuration}
    {options : Options} {failure : Failure} :
    (node.infer configuration options).1.result = .error failure ↔
      ∃ error, node.explanation (options.targetUnder configuration) = .error error ∧
        .parameter error = failure := by
  rw [sound.infer_result, explain_result]
  cases node.explanation (options.targetUnder configuration) <;> simp [Except.mapError, Except.map]

/-- With a sound cache, an inference that succeeds gives an output type that the node has. -/
theorem CacheSound.gives (sound : node.CacheSound) {configuration : Configuration}
    {options : Options} {outputType : TensorType}
    (inferred : (node.infer configuration options).1.result = .ok outputType) :
    node.Gives outputType := by
  obtain ⟨explanation, computed, same⟩ := sound.infer_eq_ok_iff.mp inferred
  exact ⟨_, explanation, computed, same⟩

end Node

/-- The answer is an inference that gives the output type. -/
def Answer.Infers (answer : Answer) (outputType : TensorType) : Prop :=
  ∃ outcome after, answer = .inferred outcome after ∧ outcome.result = .ok outputType

/-- An inference gives an output type of the node and leaves a node that gives no others, with a sound
cache. -/
theorem Slot.infer_keeps_gives (slot : Slot) (sound : slot.node.CacheSound)
    (configuration : Except ConfigurationError Configuration) (options : Options) :
    (∀ outputType, (slot.infer configuration options).1.Infers outputType →
        slot.node.Gives outputType) ∧
      (slot.infer configuration options).2.node.CacheSound ∧
      ∀ outputType, (slot.infer configuration options).2.node.Gives outputType →
        slot.node.Gives outputType := by
  refine ⟨?_, slot.cacheSound_infer configuration options true (fun _ => sound) (Bool.or_true _), ?_⟩
  · rintro outputType ⟨outcome, after, answer, inferred⟩
    cases configuration with
    | error error =>
      obtain ⟨rfl, -⟩ := Answer.inferred.inj answer
      cases inferred
    | ok configuration =>
      obtain ⟨rfl, -⟩ := Answer.inferred.inj answer
      exact sound.gives inferred
  · rintro outputType ⟨target, explanation, accepted, gives⟩
    cases configuration with
    | error error => exact ⟨target, explanation, accepted, gives⟩
    | ok configuration =>
      have kept := slot.node.explanation_infer configuration options target
      exact ⟨target, explanation, kept.symm.trans accepted, gives⟩

/-- Over any run of inferences of one node, every success gives an output type that the node has. -/
theorem Session.run_infers_gives (calls : List Options) {session : Session} {index : ℕ} {slot : Slot}
    (located : session.slots[index]? = some slot) (sound : slot.node.CacheSound) :
    ∀ answer ∈ (session.run (calls.map fun call => .node index (.infer call))).1,
      ∀ outputType, answer.Infers outputType → slot.node.Gives outputType := by
  induction calls generalizing session slot with
  | nil => exact fun _ none => absurd none List.not_mem_nil
  | cons call rest inductionHypothesis =>
    obtain ⟨gives, stillSound, noOthers⟩ :=
      slot.infer_keeps_gives sound session.readConfiguration call
    have inside : index < session.slots.length := (List.getElem?_eq_some_iff.mp located).1
    have next : (session.step (.node index (.infer call))).2.slots[index]? =
        some (slot.infer session.readConfiguration call).2 := by
      rw [step_call located rfl]
      exact List.getElem?_set_self inside
    intro answer member outputType infers
    rcases List.mem_cons.mp member with rfl | later
    · rw [step_infer_answer located] at infers
      exact gives outputType infers
    · exact noOthers outputType (inductionHypothesis next stillSound answer later outputType infers)

/-- Whatever a node is, all targets but the earliest explain it alike, by the same explanation or the same
error. The earliest target does so too, unless the others accept the mode that it refuses, and then that is
its error. So an inference that succeeds on a node without a cached type succeeds for every later target,
with the same type, and one that fails fails in the same way for every earlier target. The later of two
targets has the greater number. All inferences in a row that succeed give the same type, whatever their
targets. -/
theorem retargeting_keeps_answers (node : Node) (configuration other : Configuration)
    (options otherOptions : Options) :
    let target := options.targetUnder configuration
    let otherTarget := otherOptions.targetUnder other
    let answer := (node.explain configuration options).result
    let otherAnswer := (node.explain other otherOptions).result
    (target ≠ "opset15" → otherTarget ≠ "opset15" → answer = otherAnswer) ∧
    (target = "opset15" → otherTarget ≠ "opset15" →
      (∀ explanation, otherAnswer = .ok explanation → explanation.padType = .sameLower →
        answer = .error (.parameter ⟨node.operator, .sameLowerTarget "opset15"⟩)) ∧
      ((∀ explanation, otherAnswer = .ok explanation → explanation.padType ≠ .sameLower) →
        answer = otherAnswer)) ∧
    (node.outputType = none → ∀ earlier later : Target, target = earlier.name →
      otherTarget = later.name → Target.compare earlier.name later.name ≤ 0 →
        (∀ outputType, (node.infer configuration options).1.result = .ok outputType →
          (node.infer other otherOptions).1.result = .ok outputType) ∧
        ∀ failure, (node.infer other otherOptions).1.result = .error failure →
          (node.infer configuration options).1.result = .error failure) ∧
    (∀ earlier later : Target,
      Target.compare earlier.name later.name ≤ 0 ↔ earlier.number ≤ later.number) ∧
    (node.outputType = none → ∀ (session : Session) index shared,
      session.slots[index]? = some ⟨node, shared⟩ → ∀ calls : List Options,
        let answers := (session.run (calls.map fun call => .node index (.infer call))).1
        ∀ first ∈ answers, ∀ second ∈ answers, ∀ firstType secondType,
          first.Infers firstType → second.Infers secondType → firstType = secondType) := by
  intro target otherTarget answer otherAnswer
  have answerEq : answer = (node.explanation target).mapError Failure.parameter :=
    node.explain_result configuration options
  have otherEq : otherAnswer = (node.explanation otherTarget).mapError Failure.parameter :=
    node.explain_result other otherOptions
  have allLate : target ≠ "opset15" → otherTarget ≠ "opset15" → answer = otherAnswer := by
    intro late otherLate
    rw [answerEq, otherEq, Node.explanation_eq_of_late late, Node.explanation_eq_of_late otherLate]
  have accepted_iff (late : otherTarget ≠ "opset15") (explanation : Explanation) :
      otherAnswer = .ok explanation ↔ node.explanation "opset18" = .ok explanation := by
    rw [← Node.explanation_eq_of_late late]
    exact Node.explain_eq_ok_iff
  have refused : target = "opset15" → otherTarget ≠ "opset15" →
      ∀ explanation, otherAnswer = .ok explanation → explanation.padType = .sameLower →
        answer = .error (.parameter ⟨node.operator, .sameLowerTarget "opset15"⟩) := by
    intro early late explanation accepted unsupported
    rw [answerEq, early, Node.explanation_earliest_of_sameLower
      ((accepted_iff late explanation).mp accepted) unsupported]
    rfl
  have same : target = "opset15" → otherTarget ≠ "opset15" →
      (∀ explanation, otherAnswer = .ok explanation → explanation.padType ≠ .sameLower) →
        answer = otherAnswer := by
    intro early late supported
    rw [answerEq, otherEq, early, Node.explanation_eq_of_late late, Node.explanation_earliest]
    exact fun explanation latest => supported explanation ((accepted_iff late explanation).mpr latest)
  refine ⟨allLate, fun early late => ⟨refused early late, same early late⟩, ?_,
    Target.compare_le_zero_iff, ?_⟩
  · intro uncached earlier later targetName otherName ordered
    obtain ⟨accepted, refused⟩ := node.explanation_of_compare ordered
    have sound : node.CacheSound := Or.inl uncached
    have atEarlier : node.explanation target = node.explanation earlier.name := by rw [targetName]
    have atLater : node.explanation otherTarget = node.explanation later.name := by rw [otherName]
    refine ⟨fun outputType inferred => ?_, fun failure failed => ?_⟩
    · obtain ⟨explanation, computed, same⟩ := sound.infer_eq_ok_iff.mp inferred
      have kept := accepted explanation (atEarlier.symm.trans computed)
      exact sound.infer_eq_ok_iff.mpr ⟨explanation, atLater.trans kept, same⟩
    · obtain ⟨error, computed, same⟩ := sound.infer_eq_error_iff.mp failed
      have kept := refused error (atLater.symm.trans computed)
      exact sound.infer_eq_error_iff.mpr ⟨error, atEarlier.trans kept, same⟩
  · intro uncached session index shared located calls answers
    have gives := Session.run_infers_gives calls located (Or.inl uncached)
    intro first firstMember second secondMember firstType secondType firstInfers secondInfers
    exact (gives first firstMember firstType firstInfers).unique
      (gives second secondMember secondType secondInfers)

/-- A node whose mode the earliest target refuses, and the calls that retarget it. -/
def frontPaddedNode : Node :=
  Node.create 1 .avgPool ⟨"fp16", .ofExtents [2, 3, 7]⟩ (.required [4] "Same_Lower")

/-- Calls for a late target, for the earliest one and for the configured one. -/
def retargetingCalls : List Options :=
  [⟨some "opset16", none⟩, ⟨some "opset15", none⟩, ⟨none, none⟩]

theorem front_padding_is_refused_once :
    ∃ explanation,
      (frontPaddedNode.explain ⟨.opset18, false⟩ ⟨some "opset16", none⟩).result = .ok explanation ∧
        explanation.padType = .sameLower ∧
        (frontPaddedNode.explain ⟨.opset18, false⟩ ⟨some "opset15", none⟩).result =
          .error (.parameter ⟨.avgPool, .sameLowerTarget "opset15"⟩) ∧
        Target.compare "opset16" "opset17" ≤ 0 ∧
        (frontPaddedNode.infer ⟨.opset18, false⟩ ⟨some "opset17", some true⟩).1.result =
          .ok explanation.outputType ∧
        ∀ answer ∈ ((⟨.empty, none, 2, [⟨frontPaddedNode, false⟩]⟩ : Session).run
            (retargetingCalls.map fun call => .node 0 (.infer call))).1,
          ∀ outputType, answer.Infers outputType → outputType = explanation.outputType := by
  let explanation := frontPaddedNode.explained ⟨.sameLower, [7]⟩
  have accepted : (frontPaddedNode.explain ⟨.opset18, false⟩ ⟨some "opset16", none⟩).result =
      .ok explanation := by decide +kernel
  have inferred : (frontPaddedNode.infer ⟨.opset18, false⟩ ⟨some "opset16", none⟩).1.result =
      .ok explanation.outputType := by decide +kernel
  obtain ⟨-, early, -, -, sequences⟩ := retargeting_keeps_answers frontPaddedNode ⟨.opset18, false⟩
    ⟨.opset18, false⟩ ⟨some "opset15", none⟩ ⟨some "opset16", none⟩
  obtain ⟨-, -, later, -⟩ := retargeting_keeps_answers frontPaddedNode ⟨.opset18, false⟩
    ⟨.opset18, false⟩ ⟨some "opset16", none⟩ ⟨some "opset17", some true⟩
  refine ⟨explanation, accepted, rfl, (early rfl (by decide)).1 explanation accepted rfl, by decide,
    (later rfl .opset16 .opset17 rfl rfl (by decide)).1 _ inferred, ?_⟩
  have firstInfers : (Slot.infer ⟨frontPaddedNode, false⟩ (.ok ⟨.opset18, false⟩)
      ⟨some "opset16", none⟩).1.Infers explanation.outputType := ⟨_, _, rfl, inferred⟩
  intro answer member outputType infers
  exact sequences rfl _ 0 false rfl retargetingCalls answer member _ List.mem_cons_self outputType _
    infers firstInfers

end Pooling
