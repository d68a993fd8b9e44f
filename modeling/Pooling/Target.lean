/-
This file lists the compilation targets in the order of their release. Callers name a target by any
text, so most functions take the name; a name that is no target's comes before all of them. The
earliest target lacks a padding mode that the later ones accept.
-/

namespace Pooling

/-- A compilation target. -/
inductive Target where
  | opset15
  | opset16
  | opset17
  | opset18
  deriving DecidableEq

namespace Target

/-- All targets in release order. -/
def all : List Target :=
  [opset15, opset16, opset17, opset18]

/-- The name that callers and messages use. -/
def name : Target → String
  | opset15 => "opset15"
  | opset16 => "opset16"
  | opset17 => "opset17"
  | opset18 => "opset18"

/-- All names, parted by commas. -/
def choices : String :=
  ", ".intercalate (all.map name)

/-- The target that came out first. -/
def earliest : Target := opset15

/-- The target that came out last. -/
def latest : Target := opset18

/-- The target of a name. -/
def ofName? (name : String) : Option Target :=
  all.find? (·.name = name)

/-- The name is a target's. -/
def isName (name : String) : Bool :=
  (ofName? name).isSome

/-- The place of a name in release order, `-1` for the name of no target. -/
def releaseIndex (name : String) : Int :=
  match all.findIdx? (·.name = name) with
  | some index => index
  | none => -1

/-- The distance of two names in release order, negative when the first came out earlier. -/
def compare (first second : String) : Int :=
  releaseIndex first - releaseIndex second

end Target

end Pooling
