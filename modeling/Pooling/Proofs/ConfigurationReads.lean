/-
This file settles which configuration a session works with. Three kinds of step read it: inferring and
explaining, which every node does the same way whatever it caches and whatever the caller chose, and
asking for it. The first of them since the last reset that finds a readable environment fixes the
configuration, and no later change of the environment shows until the next reset. As long as none does,
each of them looks at the environment anew. The history of a session is enough to tell: it says how the
environment stood at every step and how many nodes there were.
-/

import Pooling.Proofs.EnvironmentConfiguration
import Pooling.Proofs.SessionCalls

namespace Pooling

/-! ### Histories -/

/-- The value of a variable after the change. Of a value that is set, what stands before its first NUL
counts. -/
def VariableChange.valueAfter (current : Option String) : VariableChange → Option String
  | .keep => current
  | .unset => none
  | .set value => some (String.ofList (value.toList.takeWhile (· ≠ Char.ofNat 0)))

namespace Step

/-- The step makes a node. -/
def creates : Step → Bool
  | .create _ _ _ => true
  | _ => false

/-- What the step makes of the environment. -/
def onEnvironment (environment : Environment) : Step → Environment
  | .setEnvironment change =>
    ⟨change.target.valueAfter environment.target, change.trace.valueAfter environment.trace⟩
  | _ => environment

/-- In a session with so many nodes, the step reads the configuration: it asks for it, or it infers or
explains a node that there is, whatever its options are. -/
def reads (nodes : ℕ) : Step → Bool
  | .node index (.infer _) => index < nodes
  | .node index (.explain _) => index < nodes
  | .getConfiguration => true
  | _ => false

end Step

/-- How many nodes there are after the steps. -/
def created (history : List Step) : ℕ :=
  history.countP Step.creates

/-- The environment as it stands after the steps. -/
def environmentAfter (history : List Step) : Environment :=
  history.foldl Step.onEnvironment ⟨none, none⟩

/-- The step at a place of the history reads the configuration from an environment that gives it, and no
reset follows. -/
structure GivesAt (history : List Step) (place : ℕ) (configuration : Configuration) : Prop where
  reads : ∃ step, history[place]? = some step ∧ step.reads (created (history.take place)) = true
  given : (environmentAfter (history.take place)).configuration = .ok configuration
  unreset : Step.resetConfiguration ∉ history.drop place

/-- The configuration is the first that was given since the last reset. -/
def FirstGiven (history : List Step) (configuration : Configuration) : Prop :=
  ∃ place, GivesAt history place configuration ∧
    ∀ earlier < place, ∀ other, ¬ GivesAt history earlier other

/-- A session after the history keeps what was given first, or nothing if nothing was given. -/
def Keeps (history : List Step) : Option Configuration → Prop
  | some configuration => FirstGiven history configuration
  | none => ∀ place configuration, ¬ GivesAt history place configuration

namespace GivesAt

variable {history : List Step} {step : Step} {place : ℕ} {configuration : Configuration}

theorem lt_length (gives : GivesAt history place configuration) : place < history.length := by
  obtain ⟨step, found, -⟩ := gives.reads
  exact (List.getElem?_eq_some_iff.mp found).1

end GivesAt

/-! ### What a session keeps -/

namespace Keeps

variable {history : List Step} {step : Step} {kept : Option Configuration}

theorem nil : Keeps [] none := fun place _ gives => absurd gives.lt_length (Nat.not_lt_zero place)

end Keeps

/-! ### One step of a session -/

namespace Session

variable (session : Session) (step : Step)

variable {session step}

end Session

/-- The options with the target and the tracing that they leave open taken from a configuration. -/
def Options.filled (options : Options) (configuration : Configuration) : Options :=
  ⟨some (options.target.getD configuration.target.name),
    some (options.trace.getD configuration.trace)⟩

end Pooling
