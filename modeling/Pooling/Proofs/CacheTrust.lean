/-
This file settles when the type that a node caches can be relied on. A caller may put any type into the
cache, edit the type that an inference returned, or change the input or the attributes under a type
that was inferred before; from then on the cache is not trusted, until it is cleared or an inference
computes its answer anew. Over any run, a trusted cache holds what explaining the node would give now
for the target that stands beside it, so inferring and explaining agree for every target.
-/

import Pooling.Proofs.SessionCalls

namespace Pooling

/-! ### Sound caches -/

/-- The cache is empty, or it holds the output type that the node has on the target it was checked for.
-/
def Node.CacheSound (node : Node) : Prop :=
  node.outputType = none ∨ ∃ target explanation, node.outputTarget = some target ∧
    node.explanation target = .ok explanation ∧ node.outputType = some explanation.outputType

namespace Node

variable {node : Node}

/-- An answer from a sound cache is the one that would be computed. -/
theorem CacheSound.explanation_eq (sound : node.CacheSound) {target : String}
    {outputType : TensorType} (found : node.cached? target = some outputType) :
    ∃ explanation, node.explanation target = .ok explanation ∧
      explanation.outputType = outputType := by
  unfold cached? at found
  split at found
  · rename_i checked
    rcases sound with empty | ⟨stored, explanation, storedAt, computed, holds⟩
    · rw [empty] at found
      cases found
    · obtain rfl : stored = target := Option.some_inj.mp (storedAt.symm.trans checked)
      exact ⟨explanation, computed, Option.some_inj.mp (holds.symm.trans found)⟩
  · cases found

/-- With a sound cache, inferring and explaining come to the same end. -/
theorem CacheSound.infer_result (sound : node.CacheSound) (configuration : Configuration)
    (options : Options) :
    (node.infer configuration options).1.result =
      (node.explain configuration options).result.map Explanation.outputType := by
  rw [explain_result]
  cases found : node.cached? (options.targetUnder configuration) with
  | some outputType =>
    obtain ⟨explanation, computed, same⟩ := sound.explanation_eq found
    rw [(infer_of_cached found).1, computed, ← same]
    rfl
  | none =>
    cases computed : node.explanation (options.targetUnder configuration) with
    | ok explanation =>
      rw [(infer_of_explanation found computed).1]
      rfl
    | error error =>
      rw [(infer_of_error found computed).1]
      rfl

/-- A type stored right after it was computed makes the cache sound, whatever it held before. -/
theorem cacheSound_store {target : String} {explanation : Explanation}
    (computed : node.explanation target = .ok explanation) :
    (node.store target explanation.outputType).CacheSound :=
  Or.inr ⟨target, explanation, rfl, computed, rfl⟩

end Node

/-! ### Trust -/

/-- The inference succeeds, and the cache does not answer it. -/
def Node.computes (node : Node) (configuration : Except ConfigurationError Configuration)
    (options : Options) : Bool :=
  match configuration with
  | .ok configuration =>
    (node.cached? (options.targetUnder configuration)).isNone &&
      (node.infer configuration options).1.result.isOk
  | .error _ => false

/-- Whether the cache of a node is trusted after a step on it. -/
def Slot.trustAfter (slot : Slot) (configuration : Except ConfigurationError Configuration)
    (trusted : Bool) : NodeStep → Bool
  | .infer options => slot.node.computes configuration options || trusted
  | .explain _ => trusted
  | .resolve => trusted
  | .setInput _ => trusted && slot.node.outputType.isNone
  | .setAttributes _ => trusted && slot.node.outputType.isNone
  | .clearCache => true
  | .setCache outputType _ => outputType.isNone
  | .editReturned _ _ => false
  | .editSource => trusted

namespace Session

/-- Which caches are trusted after a step, in the order in which the nodes were created. -/
def trustAfter (session : Session) (trust : List Bool) : Step → List Bool
  | .create _ _ _ => trust ++ [true]
  | .node index step =>
    match session.slots[index]? with
    | some slot =>
      trust.modify index fun trusted => slot.trustAfter session.readConfiguration trusted step
    | none => trust
  | .setEnvironment _ => trust
  | .resetConfiguration => trust
  | .getConfiguration => trust
  | .resetIds => trust

/-- Which caches are trusted after a run. -/
def trustRun (session : Session) (trust : List Bool) : List Step → List Bool
  | [] => trust
  | step :: rest => (session.step step).2.trustRun (session.trustAfter trust step) rest

/-- Every node has a status, and the caches that are trusted are sound. -/
structure Trusts (session : Session) (trust : List Bool) : Prop where
  lengths : trust.length = session.slots.length
  sound : ∀ (index : ℕ) (slot : Slot), session.slots[index]? = some slot →
    trust[index]? = some true → slot.node.CacheSound

end Session

/-! ### Steps of one node -/

theorem Slot.cacheSound_infer (slot : Slot)
    (configuration : Except ConfigurationError Configuration) (options : Options) (trusted : Bool)
    (sound : trusted = true → slot.node.CacheSound)
    (still : (slot.node.computes configuration options || trusted) = true) :
    (slot.infer configuration options).2.node.CacheSound := by
  cases configuration with
  | error error =>
    exact sound still
  | ok configuration =>
    show (slot.node.infer configuration options).2.CacheSound
    rw [Bool.or_eq_true] at still
    cases found : slot.node.cached? (options.targetUnder configuration) with
    | some outputType =>
      rw [(Node.infer_of_cached found).2]
      refine sound (still.resolve_left ?_)
      simp [Node.computes, found]
    | none =>
      cases computed : slot.node.explanation (options.targetUnder configuration) with
      | ok explanation =>
        rw [(Node.infer_of_explanation found computed).2]
        exact Node.cacheSound_store computed
      | error error =>
        obtain ⟨failed, kept⟩ := Node.infer_of_error found computed
        rw [kept]
        refine sound (still.resolve_left ?_)
        simp [Node.computes, failed, Except.isOk, Except.toBool]

/-- A step keeps the caches that it leaves trusted sound. -/
theorem Slot.cacheSound_perform (slot : Slot)
    (configuration : Except ConfigurationError Configuration) (step : NodeStep) (trusted : Bool)
    (sound : trusted = true → slot.node.CacheSound)
    (still : slot.trustAfter configuration trusted step = true) :
    (slot.perform configuration step).2.node.CacheSound := by
  cases step with
  | infer options => exact slot.cacheSound_infer configuration options trusted sound still
  | explain options => exact sound still
  | resolve => exact sound still
  | setInput input =>
    obtain ⟨-, empty⟩ := Bool.and_eq_true_iff.mp still
    exact Or.inl (Option.isNone_iff_eq_none.mp empty)
  | setAttributes attributes =>
    obtain ⟨-, empty⟩ := Bool.and_eq_true_iff.mp still
    exact Or.inl (Option.isNone_iff_eq_none.mp empty)
  | clearCache => exact Or.inl rfl
  | setCache outputType outputTarget => exact Or.inl (Option.isNone_iff_eq_none.mp still)
  | editReturned index value => cases still
  | editSource => exact sound still

/-! ### Runs -/

namespace Session

variable {session : Session} {trust : List Bool}

theorem start_trusts : start.Trusts [] :=
  ⟨rfl, fun _ _ found => by cases found⟩

/-- What a step does apart from its nodes does not bear on trust. -/
theorem Trusts.of_slots_eq (trusts : session.Trusts trust) {later : Session}
    (same : later.slots = session.slots) : later.Trusts trust :=
  ⟨by rw [trusts.lengths, same], by rw [same]; exact trusts.sound⟩

/-- A new node has an empty cache. -/
theorem Trusts.create (trusts : session.Trusts trust) (operator : Operator) (input : TensorType)
    (attributes : Attributes) :
    (session.step (.create operator input attributes)).2.Trusts (trust ++ [true]) := by
  obtain ⟨lengths, sound⟩ := trusts
  refine ⟨by simp [step, lengths], ?_⟩
  intro index slot found status
  simp only [step] at found
  rcases lt_or_ge index session.slots.length with earlier | later
  · rw [List.getElem?_append_left earlier] at found
    rw [List.getElem?_append_left (lengths.symm ▸ earlier)] at status
    exact sound index slot found status
  · rw [List.getElem?_append_right later, List.getElem?_singleton] at found
    split at found
    · obtain rfl := Option.some_inj.mp found
      exact Or.inl rfl
    · cases found

/-- A step of one node leaves the other nodes and their status alone. -/
theorem Trusts.nodeStep (trusts : session.Trusts trust) (index : ℕ) (step : NodeStep) :
    (session.step (.node index step)).2.Trusts (session.trustAfter trust (.node index step)) := by
  cases located : session.slots[index]? with
  | none =>
    rw [step_node_of_none located, trustAfter, located]
    exact trusts
  | some slot =>
    have performed : (session.step (.node index step)).2.slots =
        session.slots.set index (slot.perform session.readConfiguration step).2 := by
      rw [step_node_of_some located]
    rw [trustAfter, located]
    refine ⟨by rw [performed, List.length_set, List.length_modify, trusts.lengths], ?_⟩
    intro other otherSlot found status
    rcases eq_or_ne index other with rfl | elsewhere
    · have inside : index < session.slots.length := (List.getElem?_eq_some_iff.mp located).1
      rw [performed, List.getElem?_set_self inside] at found
      obtain rfl := Option.some_inj.mp found
      rw [List.getElem?_modify_eq] at status
      obtain ⟨trusted, before, still⟩ := Option.map_eq_some_iff.mp status
      exact slot.cacheSound_perform session.readConfiguration step trusted
        (fun was => trusts.sound index slot located (was ▸ before)) still
    · rw [performed, List.getElem?_set_ne elsewhere] at found
      rw [List.getElem?_modify_ne _ _ elsewhere] at status
      exact trusts.sound other otherSlot found status

/-- A step keeps the caches that it leaves trusted sound. -/
theorem Trusts.step (trusts : session.Trusts trust) (step : Step) :
    (session.step step).2.Trusts (session.trustAfter trust step) := by
  cases step with
  | create operator input attributes => exact trusts.create operator input attributes
  | node index step => exact trusts.nodeStep index step
  | setEnvironment change => exact trusts.of_slots_eq rfl
  | resetConfiguration => exact trusts.of_slots_eq rfl
  | getConfiguration => exact trusts.of_slots_eq rfl
  | resetIds => exact trusts.of_slots_eq rfl

theorem Trusts.run (trusts : session.Trusts trust) (steps : List Step) :
    (session.run steps).2.Trusts (session.trustRun trust steps) := by
  induction steps generalizing session trust with
  | nil => exact trusts
  | cons step rest inductionHypothesis => exact inductionHypothesis (trusts.step step)

end Session

/-- With a sound cache, both calls on a node answer alike, without a configuration too. -/
theorem Slot.infer_answer {slot : Slot} (sound : slot.node.CacheSound)
    (configuration : Except ConfigurationError Configuration) (options : Options) :
    ∃ inferred explained after,
      (slot.infer configuration options).1 = .inferred inferred after ∧
        slot.explain configuration options = .explained explained slot.node ∧
        inferred.result = explained.result.map Explanation.outputType := by
  cases configuration with
  | error error => exact ⟨_, _, _, rfl, rfl, rfl⟩
  | ok configuration => exact ⟨_, _, _, rfl, rfl, sound.infer_result configuration options⟩

/-- After any run, the node of a trusted cache has no output type cached or the one that explaining it
gives for the target that is cached with it. Inferring it gives the type or the error that explaining it
gives, whatever the options. -/
theorem trusted_cache_agrees_with_explain (steps : List Step) (index : ℕ)
    (trusted : (Session.start.trustRun [] steps)[index]? = some true) :
    let session := (Session.start.run steps).2
    ∃ slot, session.slots[index]? = some slot ∧
      (slot.node.outputType = none ∨ ∃ target explanation,
        slot.node.outputTarget = some target ∧
          (∀ configuration trace,
            (slot.node.explain configuration ⟨some target, trace⟩).result = .ok explanation) ∧
          slot.node.outputType = some explanation.outputType) ∧
      ∀ options, ∃ inferred explained after,
        (session.step (.node index (.infer options))).1 = .inferred inferred after ∧
          (session.step (.node index (.explain options))).1 = .explained explained slot.node ∧
          inferred.result = explained.result.map Explanation.outputType := by
  intro session
  have trusts : session.Trusts (Session.start.trustRun [] steps) :=
    Session.start_trusts.run steps
  have inside : index < session.slots.length :=
    trusts.lengths ▸ (List.getElem?_eq_some_iff.mp trusted).1
  have located := List.getElem?_eq_getElem inside
  have sound := trusts.sound index _ located trusted
  refine ⟨_, located, ?_, ?_⟩
  · rcases sound with empty | ⟨target, explanation, storedAt, computed, holds⟩
    · exact Or.inl empty
    · refine Or.inr ⟨target, explanation, storedAt, fun configuration trace => ?_, holds⟩
      exact Node.explain_eq_ok_iff.mpr computed
  · intro options
    rw [Session.step_infer_answer located, Session.step_explain_answer located]
    exact Slot.infer_answer sound session.readConfiguration options

/-- A node is inferred, fails on the target that does not support its mode, gets another input and is
inferred for another target. -/
def retargetingRun : List Step :=
  [.create .maxPool ⟨"fp32", [.symbol "N", .extent 1, .extent 5]⟩
      ⟨[2], none, "same_lower", none, none, none⟩,
    .node 0 (.infer ⟨some "opset16", none⟩),
    .node 0 (.infer ⟨some "opset15", none⟩),
    .node 0 (.setInput ⟨"fp16", [.symbol "N", .extent 1, .extent 9]⟩),
    .node 0 (.infer ⟨some "opset17", none⟩)]

theorem trusted_cache_agrees_after_retargeting :
    (Session.start.trustRun [] retargetingRun)[0]? = some true ∧
      ∃ inferred explained after node,
        ((Session.start.run retargetingRun).2.step (.node 0 (.infer ⟨some "opset15", none⟩))).1 =
            .inferred inferred after ∧
          ((Session.start.run retargetingRun).2.step (.node 0 (.explain ⟨some "opset15", none⟩))).1 =
            .explained explained node ∧
          inferred.result = explained.result.map Explanation.outputType := by
  have trusted : (Session.start.trustRun [] retargetingRun)[0]? = some true := by decide +kernel
  obtain ⟨slot, -, -, agrees⟩ := trusted_cache_agrees_with_explain retargetingRun 0 trusted
  obtain ⟨inferred, explained, after, answers⟩ := agrees ⟨some "opset15", none⟩
  exact ⟨trusted, inferred, explained, after, slot.node, answers⟩

end Pooling
