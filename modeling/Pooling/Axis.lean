/-
This file computes what pooling does to one spatial axis, and to a list of them axis by axis. A window
covers `kernel` positions of the padded axis and starts at every multiple of the stride, so the extent
of the output is the number of starts that leave room for a window, rounded down or up. Every step is
binary64 arithmetic in a fixed order. Counts are given as computed, a negative one too, because whether
a shape is usable is decided elsewhere.
-/

import Pooling.PadType
import Pooling.Binary64.Basic

namespace Pooling

/-! ### Entries of a list -/

/-- An entry as an operand. A missing one is `nan`, so whatever is computed from it is `nan` too. -/
def operand (entry : Option Binary64) : Binary64 :=
  entry.getD .nan

/-! ### One axis -/

/-- The units of padding on the two sides of an axis. A side for which the caller listed no amount has
none. -/
structure Padding where
  before : Option Binary64
  after : Option Binary64
  deriving DecidableEq

/-- One spatial axis of the input with the attributes that belong to it. -/
structure Axis where
  extent : Binary64
  kernel : Binary64
  stride : Binary64
  listed : Padding
  deriving DecidableEq

/-- The least padding that makes room for `ceil (extent / stride)` windows. -/
def samePaddingTotal (extent kernel stride : Binary64) : Binary64 :=
  let windows := (extent / stride).ceil
  ((windows - 1) * stride + kernel - extent).maximum 0

/-- The number of windows on an axis between `before` and `after` units of padding. Rounding up counts a
window that only starts inside the padded axis; such a window is dropped again if the axis is padded
and the start lies in the padding behind it. -/
def windowCount (extent kernel stride before after : Binary64) (ceilMode : Bool) : Binary64 :=
  let total := before + after
  let span := extent + total - kernel
  if ceilMode then
    let windows := (span / stride).ceil + 1
    let startsBehind := Binary64.atMost (extent + before) ((windows - 1) * stride)
    if startsBehind && Binary64.less 0 total then windows - 1 else windows
  else (span / stride).floor + 1

namespace Axis

/-- The total that a `same` mode pads the axis by. -/
def samePadding (axis : Axis) : Binary64 :=
  samePaddingTotal axis.extent axis.kernel axis.stride

/-- The padding of the axis. Of an odd total, `same` puts the greater half behind the axis and
`sameLower` in front of it. -/
def padding (axis : Axis) : PadType → Padding
  | .valid => ⟨some 0, some 0⟩
  | .custom => axis.listed
  | .same =>
    let before := (axis.samePadding / 2).floor
    ⟨some before, some (axis.samePadding - before)⟩
  | .sameLower =>
    let before := (axis.samePadding / 2).ceil
    ⟨some before, some (axis.samePadding - before)⟩

/-- The number of windows on the axis under the given padding. -/
def windows (axis : Axis) (padding : Padding) (ceilMode : Bool) : Binary64 :=
  windowCount axis.extent axis.kernel axis.stride (operand padding.before) (operand padding.after)
    ceilMode

end Axis

/-! ### All axes -/

/-- The axes of an input. There are as many as extents: the other lists are read by position, two entries
of `pad` to an axis, and what they hold beyond that is left alone. -/
def axes (extents kernelSizes strides pad : List Binary64) : List Axis :=
  extents.mapIdx fun index extent =>
    { extent
      kernel := operand kernelSizes[index]?
      stride := operand strides[index]?
      listed := ⟨pad[2 * index]?, pad[2 * index + 1]?⟩ }

/-- The padding of every axis. -/
def padAmounts (padType : PadType) (extents kernelSizes strides pad : List Binary64) : List Padding :=
  (axes extents kernelSizes strides pad).map fun axis => axis.padding padType

/-- The extent of every axis of the output. -/
def outputExtents (padType : PadType) (extents kernelSizes strides pad : List Binary64)
    (ceilMode : Bool) : List Binary64 :=
  (axes extents kernelSizes strides pad).map fun axis =>
    axis.windows (axis.padding padType) ceilMode

end Pooling
