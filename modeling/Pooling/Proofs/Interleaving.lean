/-
This file settles that what is done to different nodes may be mixed in any order. Steps on nodes share one
thing, the configuration, which the first call on any of them reads and keeps. But what a call reads is
settled before the first of them, since no step on a node changes the environment, and a failure to read is
not kept. So a step answers as it would before a step on another node, and the two leave the same session in
either order. Over two sequences of steps it follows, one step after the other, that every interleaving
answers each step as the sequence alone does, and leaves the session that the two leave one after the other.
-/

import Pooling.Catalog
import Pooling.Proofs.SessionCalls

namespace Pooling

/-! ### Interleavings -/

/-- The merged list has the entries of both lists, those of each in their order. -/
inductive Interleaves {Entry : Type} : List Entry → List Entry → List Entry → Prop where
  | nil : Interleaves [] [] []
  | first {entry : Entry} {first second merged : List Entry} (rest : Interleaves first second merged) :
      Interleaves (entry :: first) second (entry :: merged)
  | second {entry : Entry} {first second merged : List Entry} (rest : Interleaves first second merged) :
      Interleaves first (entry :: second) (entry :: merged)

/-- The steps are done to nodes, and not to the same one. -/
inductive Step.Apart : Step → Step → Prop where
  | nodes {index other : ℕ} (different : index ≠ other) (call otherCall : NodeStep) :
      Step.Apart (.node index call) (.node other otherCall)

theorem Step.Apart.symm {first second : Step} (apart : first.Apart second) : second.Apart first := by
  cases apart with
  | nodes different call otherCall => exact .nodes different.symm otherCall call

/-! ### Two steps of different nodes -/

namespace Session

variable (session : Session)

/-- Reading settles nothing that was not settled before. -/
theorem readConfiguration_reading (call : NodeStep) :
    (session.reading call).readConfiguration = session.readConfiguration := by
  unfold reading
  split
  · cases read : session.readConfiguration with
    | ok configuration =>
      rw [afterReading_of_ok read]
      rfl
    | error error => rw [afterReading_of_error read, read]
  · rfl

/-- A step of a node leaves the configuration that calls read. -/
theorem readConfiguration_step_node (index : ℕ) (call : NodeStep) :
    (session.step (.node index call)).2.readConfiguration = session.readConfiguration := by
  cases located : session.slots[index]? with
  | none => rw [step_node_of_none located]
  | some slot =>
    rw [step_node_of_some located]
    exact session.readConfiguration_reading call

/-- A step of a node leaves the slots of the others. -/
theorem slots_step_node {index other : ℕ} (call : NodeStep) (different : index ≠ other) :
    (session.step (.node index call)).2.slots[other]? = session.slots[other]? := by
  cases located : session.slots[index]? with
  | none => rw [step_node_of_none located]
  | some slot =>
    rw [step_node_of_some located]
    exact List.getElem?_set_ne different

variable {first second : Step} (apart : first.Apart second)

include apart

/-- A step answers the same after a step of another node. -/
theorem answer_step_of_apart :
    ((session.step first).2.step second).1 = (session.step second).1 := by
  obtain ⟨different, call, otherCall⟩ := apart
  rename_i index other
  have kept := session.slots_step_node call different
  cases located : session.slots[other]? with
  | none => rw [step_node_of_none located, step_node_of_none (kept.trans located)]
  | some slot =>
    rw [step_node_of_some located, step_node_of_some (kept.trans located),
      readConfiguration_step_node]

/-- Two steps of different nodes leave the same session in either order. -/
theorem step_comm_of_apart :
    ((session.step first).2.step second).2 = ((session.step second).2.step first).2 := by
  obtain ⟨different, call, otherCall⟩ := apart
  rename_i index other
  have kept := session.slots_step_node call different
  have otherKept := session.slots_step_node otherCall different.symm
  cases located : session.slots[index]? with
  | none => rw [step_node_of_none located, step_node_of_none (otherKept.trans located)]
  | some slot =>
  cases otherLocated : session.slots[other]? with
  | none => rw [step_node_of_none otherLocated, step_node_of_none (kept.trans otherLocated)]
  | some otherSlot =>
    rw [step_node_of_some (kept.trans otherLocated), step_node_of_some (otherKept.trans located),
      readConfiguration_step_node, readConfiguration_step_node, step_node_of_some located,
      step_node_of_some otherLocated]
    dsimp only
    rw [List.set_comm _ _ different]
    -- the configuration is left by the last call that reads it, and every call reads the same one
    unfold reading
    cases call.readsConfiguration <;> cases otherCall.readsConfiguration <;> rfl

omit apart

/-! ### Runs of different nodes -/

/-- A run answers the same after a step of a node that it does not name, and that step may as well come
after it. -/
theorem run_after_step {step : Step} {steps : List Step} (apart : ∀ later ∈ steps, step.Apart later) :
    ((session.step step).2.run steps).1 = (session.run steps).1 ∧
      ((session.step step).2.run steps).2 = ((session.run steps).2.step step).2 := by
  induction steps generalizing session with
  | nil => exact ⟨rfl, rfl⟩
  | cons next rest inductionHypothesis =>
    obtain ⟨nextApart, restApart⟩ := List.forall_mem_cons.mp apart
    obtain ⟨answers, left⟩ := inductionHypothesis (session.step next).2 restApart
    unfold run
    dsimp only
    rw [answer_step_of_apart session nextApart, step_comm_of_apart session nextApart, answers, left]
    exact ⟨rfl, rfl⟩

end Session

/-- Two sequences of steps on nodes, none of which both sequences name, may be interleaved in any way. Every
step answers as it does when its sequence is run alone, with the same lines and the same state of the node,
and the session is in the end what the two sequences make of it one after the other. That holds from any
session on, whether or not its configuration was read yet and whether or not it can be. -/
theorem interleaving_keeps_answers (session : Session) (first second merged : List Step)
    (apart : ∀ step ∈ first, ∀ other ∈ second, step.Apart other)
    (interleaves : Interleaves first second merged) :
    Interleaves (first.zip (session.run first).1) (second.zip (session.run second).1)
        (merged.zip (session.run merged).1) ∧
      (session.run merged).2 = (session.run (first ++ second)).2 := by
  induction interleaves generalizing session with
  | nil => exact ⟨.nil, rfl⟩
  | @first step first second merged rest inductionHypothesis =>
    obtain ⟨stepApart, restApart⟩ := List.forall_mem_cons.mp apart
    obtain ⟨answers, left⟩ := inductionHypothesis (session.step step).2 restApart
    rw [(session.run_after_step stepApart).1] at answers
    exact ⟨answers.first, left⟩
  | @second step first second merged rest inductionHypothesis =>
    have stepApart : ∀ earlier ∈ first, step.Apart earlier := fun earlier member =>
      (apart earlier member step List.mem_cons_self).symm
    have restApart : ∀ earlier ∈ first, ∀ other ∈ second, earlier.Apart other :=
      fun earlier member other otherMember =>
        apart earlier member other (List.mem_cons_of_mem _ otherMember)
    obtain ⟨answers, left⟩ := inductionHypothesis (session.step step).2 restApart
    obtain ⟨alone, later⟩ := session.run_after_step stepApart
    rw [alone] at answers
    refine ⟨answers.second, left.trans ?_⟩
    rw [Session.run_append, later, Session.run_append]
    rfl

/-- A session with two nodes that has not read its environment yet. -/
def unreadSession : Session :=
  (Session.start.run
    [.setEnvironment ⟨.set " opset16", .set "1"⟩,
      .create .maxPool ⟨"fp32", .ofExtents [1, 1, 5]⟩ (.required [2] "same_lower"),
      .create .avgPool ⟨"fp16", .ofExtents [1, 1, 6]⟩ (.required [3] "valid")]).2

/-- The first node is inferred and loses its cache. -/
def clearingSteps : List Step :=
  [.node 0 (.infer ⟨none, none⟩), .node 0 .clearCache]

/-- The second node gets another input and is explained. -/
def explainingSteps : List Step :=
  [.node 1 (.setInput ⟨"fp16", .ofExtents [1, 1, 9]⟩), .node 1 (.explain ⟨none, none⟩)]

/-- The explanation comes first, and with it the reading of the environment. -/
def explainedFirst : List Step :=
  [.node 1 (.setInput ⟨"fp16", .ofExtents [1, 1, 9]⟩), .node 1 (.explain ⟨none, none⟩),
    .node 0 (.infer ⟨none, none⟩), .node 0 .clearCache]

theorem explanation_may_come_first :
    (∀ step ∈ clearingSteps, ∀ other ∈ explainingSteps, step.Apart other) ∧
      Interleaves clearingSteps explainingSteps explainedFirst ∧
      Interleaves (clearingSteps.zip (unreadSession.run clearingSteps).1)
        (explainingSteps.zip (unreadSession.run explainingSteps).1)
        (explainedFirst.zip (unreadSession.run explainedFirst).1) ∧
      (unreadSession.run explainedFirst).2 =
        (unreadSession.run (clearingSteps ++ explainingSteps)).2 := by
  have apart : ∀ step ∈ clearingSteps, ∀ other ∈ explainingSteps, step.Apart other := by
    intro step member other otherMember
    obtain ⟨call, rfl⟩ : ∃ call, step = .node 0 call := by
      rcases List.mem_pair.mp member with rfl | rfl <;> exact ⟨_, rfl⟩
    obtain ⟨otherCall, rfl⟩ : ∃ otherCall, other = .node 1 otherCall := by
      rcases List.mem_pair.mp otherMember with rfl | rfl <;> exact ⟨_, rfl⟩
    exact .nodes Nat.zero_ne_one call otherCall
  have interleaves : Interleaves clearingSteps explainingSteps explainedFirst :=
    .second (.second (.first (.first .nil)))
  exact ⟨apart, interleaves, interleaving_keeps_answers unreadSession clearingSteps explainingSteps
    explainedFirst apart interleaves⟩

end Pooling
