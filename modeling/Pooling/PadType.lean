/-
This file lists the padding modes and reads them from text. A mode is named without regard to case.
-/

namespace Pooling

/-- How the padding of a spatial axis is chosen: none, the amounts that keep `ceil (extent / stride)`
windows with an odd unit behind the axis or in front of it, or the amounts that a caller lists. -/
inductive PadType where
  | valid
  | same
  | custom
  | sameLower
  deriving DecidableEq

namespace PadType

/-- All modes in the order in which messages list them. -/
def all : List PadType :=
  [valid, same, custom, sameLower]

/-- The name that messages use. -/
def name : PadType → String
  | valid => "valid"
  | same => "same"
  | custom => "custom"
  | sameLower => "same_lower"

/-- All names, parted by commas. -/
def choices : String :=
  ", ".intercalate (all.map name)

/-- The mode whose name is the text in lower case. Folding the ASCII letters is enough: no character
outside ASCII has a letter of the four names as its lower case. -/
def ofText? (text : String) : Option PadType :=
  all.find? (·.name = text.toLower)

end PadType

end Pooling
