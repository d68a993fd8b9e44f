/-
This file reads the configuration from two environment variables. `POOL_IR_TARGET` names the target for
callers that give none, with white space around the name ignored and the latest target standing in for
an empty name; `POOL_IR_TRACE` turns tracing on when it is `1`. A value in an environment ends before
its first NUL, so a value is cut there when it is set.
-/

import Pooling.Target

namespace Pooling

/-! ### White space -/

/-- White space around a name: the blanks of Unicode, the line and paragraph separators, the controls from
tab to carriage return, and the byte order mark. -/
def isBlank (c : Char) : Bool :=
  let code := c.toNat
  (0x9 ≤ code && code ≤ 0xD) || code = 0x20 || code = 0xA0 || code = 0x1680 ||
    (0x2000 ≤ code && code ≤ 0x200A) || code = 0x2028 || code = 0x2029 || code = 0x202F ||
    code = 0x205F || code = 0x3000 || code = 0xFEFF

/-- The text without white space at its ends. -/
def trimmed (text : String) : String :=
  String.ofList ((text.toList.dropWhile isBlank).reverse.dropWhile isBlank).reverse

/-! ### Environments -/

/-- The environment variables that matter here. -/
structure Environment where
  target : Option String
  trace : Option String
  deriving DecidableEq

/-- What is done to an environment variable. -/
inductive VariableChange where
  | keep
  | unset
  | set (value : String)
  deriving DecidableEq

namespace VariableChange

/-- The part of a text that an environment can hold. -/
def storable (value : String) : String :=
  String.ofList (value.toList.takeWhile (· ≠ Char.ofNat 0))

/-- The value of a variable after the change. -/
def apply (change : VariableChange) (current : Option String) : Option String :=
  match change with
  | keep => current
  | unset => none
  | set value => some (storable value)

end VariableChange

/-- What is done to an environment. -/
structure EnvironmentChange where
  target : VariableChange
  trace : VariableChange
  deriving DecidableEq

namespace Environment

/-- The environment with neither variable set. -/
def empty : Environment :=
  ⟨none, none⟩

/-- The environment after the change. -/
def update (environment : Environment) (change : EnvironmentChange) : Environment :=
  ⟨change.target.apply environment.target, change.trace.apply environment.trace⟩

end Environment

/-! ### Configurations -/

/-- The target and the tracing of callers that choose none. -/
structure Configuration where
  target : Target
  trace : Bool
  deriving DecidableEq

/-- The environment names a target that does not exist. -/
inductive ConfigurationError where
  | unknownTarget (name : String)
  deriving DecidableEq

/-- The text of the error. -/
def ConfigurationError.message : ConfigurationError → String
  | unknownTarget name =>
    s!"POOL_IR_TARGET must be one of {Target.choices}, got \"{name}\""

namespace Environment

/-- The target that the environment names. -/
def defaultTarget (environment : Environment) : Except ConfigurationError Target :=
  match environment.target.map trimmed with
  | none => .ok Target.latest
  | some name =>
    if name.isEmpty then .ok Target.latest
    else match Target.ofName? name with
      | some target => .ok target
      | none => .error (.unknownTarget name)

/-- The configuration of the environment. -/
def configuration (environment : Environment) : Except ConfigurationError Configuration := do
  let target ← environment.defaultTarget
  return ⟨target, environment.trace = some "1"⟩

end Environment

end Pooling
