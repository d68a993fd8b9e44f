/-
This file settles that pooling works axis by axis. Cutting one axis out of a node leaves a node with a
single spatial axis: its entry of the kernel sizes and of the strides, and its two entries of the pad
amounts, as far as the lists were given at all. A node is accepted exactly if its lists are as long as
its axes ask for, there are not too many axes, and every node cut out of it is accepted; and then it
shows for every axis what the node of that axis shows.
-/

import Pooling.Catalog
import Pooling.Proofs.AcceptedNode
import Pooling.Proofs.Conditions

namespace Pooling

open Binary64

/-! ### Entries of one axis -/

/-- The entries that belong to an axis in a list with `width` entries for each. -/
def entriesAt {Entry : Type} (width : ℕ) (entries : List Entry) (axis : ℕ) : List Entry :=
  (entries.drop (width * axis)).take width

section Entries

variable {Entry : Type} {width count axis : ℕ} {entries : List Entry}

theorem getElem?_entriesAt (entries : List Entry) (axis : ℕ) {offset : ℕ} (inside : offset < width) :
    (entriesAt width entries axis)[offset]? = entries[width * axis + offset]? := by
  rw [entriesAt, List.getElem?_take_of_lt inside, List.getElem?_drop]

theorem mem_of_mem_entriesAt {entry : Entry} (member : entry ∈ entriesAt width entries axis) :
    entry ∈ entries :=
  List.mem_of_mem_drop (List.mem_of_mem_take member)

theorem length_entriesAt (length : entries.length = width * count) (inside : axis < count) :
    (entriesAt width entries axis).length = width := by
  have enough : width * (axis + 1) ≤ width * count := Nat.mul_le_mul_left width inside
  rw [Nat.mul_succ] at enough
  rw [entriesAt, List.length_take, List.length_drop, length]
  omega

/-- Every entry belongs to an axis. -/
theorem exists_mem_entriesAt (length : entries.length = width * count) {entry : Entry}
    (member : entry ∈ entries) : ∃ axis < count, entry ∈ entriesAt width entries axis := by
  obtain ⟨place, found⟩ := List.mem_iff_getElem?.mp member
  have inside : place < width * count := length ▸ (List.getElem?_eq_some_iff.mp found).1
  have positive : 0 < width := Nat.pos_of_mul_pos_right (Nat.zero_lt_of_lt inside)
  refine ⟨place / width, Nat.div_lt_of_lt_mul inside, ?_⟩
  refine List.mem_iff_getElem?.mpr ⟨place % width, ?_⟩
  rw [getElem?_entriesAt entries _ (Nat.mod_lt place positive), Nat.div_add_mod, found]

theorem entriesAt_replicate (width : ℕ) (entry : Entry) (inside : axis < count) :
    entriesAt width (List.replicate (width * count) entry) axis = List.replicate width entry := by
  refine List.eq_replicate_iff.mpr ⟨length_entriesAt List.length_replicate inside, ?_⟩
  intro other member
  exact List.eq_of_mem_replicate (mem_of_mem_entriesAt member)

theorem entriesAt_one (entries : List Entry) (axis : ℕ) :
    entriesAt 1 entries axis = entries[axis]?.toList := by
  rw [entriesAt, one_mul, List.take_one, List.head?_drop]

theorem entriesAt_one_of_getElem? {entry : Entry} (found : entries[axis]? = some entry) :
    entriesAt 1 entries axis = [entry] := by
  rw [entriesAt_one, found, Option.toList_some]

theorem entriesAt_two_of_getElem? {before after : Entry} (beforeAt : entries[2 * axis]? = some before)
    (afterAt : entries[2 * axis + 1]? = some after) : entriesAt 2 entries axis = [before, after] := by
  obtain ⟨beforeInside, rfl⟩ := List.getElem?_eq_some_iff.mp beforeAt
  obtain ⟨afterInside, rfl⟩ := List.getElem?_eq_some_iff.mp afterAt
  rw [entriesAt, List.drop_eq_getElem_cons beforeInside, List.drop_eq_getElem_cons afterInside]
  rfl

theorem entriesAt_map {Other : Type} (change : Entry → Other) :
    entriesAt width (entries.map change) axis = (entriesAt width entries axis).map change := by
  rw [entriesAt, entriesAt, ← List.map_drop, ← List.map_take]

end Entries

/-- The axes computed from the entries of one axis are that axis alone. -/
theorem axes_entriesAt (extents kernelSizes strides pad : List Binary64) (axis : ℕ) :
    axes (entriesAt 1 extents axis) (entriesAt 1 kernelSizes axis) (entriesAt 1 strides axis)
      (entriesAt 2 pad axis) = entriesAt 1 (axes extents kernelSizes strides pad) axis := by
  rw [entriesAt_one extents, entriesAt_one (axes _ _ _ _)]
  unfold axes
  rw [List.getElem?_mapIdx]
  cases extents[axis]? with
  | none => rfl
  | some extent =>
    have kernel : (entriesAt 1 kernelSizes axis)[0]? = kernelSizes[axis]? := by
      rw [getElem?_entriesAt kernelSizes axis one_pos, one_mul, add_zero]
    have stride : (entriesAt 1 strides axis)[0]? = strides[axis]? := by
      rw [getElem?_entriesAt strides axis one_pos, one_mul, add_zero]
    have before : (entriesAt 2 pad axis)[2 * 0]? = pad[2 * axis]? :=
      getElem?_entriesAt pad axis two_pos
    have after : (entriesAt 2 pad axis)[2 * 0 + 1]? = pad[2 * axis + 1]? :=
      getElem?_entriesAt pad axis one_lt_two
    simp only [Option.toList_some, List.mapIdx_cons, List.mapIdx_nil, Option.map_some, kernel,
      stride, before, after]

theorem padAmounts_entriesAt (padType : PadType) (extents kernelSizes strides pad : List Binary64)
    (axis : ℕ) :
    padAmounts padType (entriesAt 1 extents axis) (entriesAt 1 kernelSizes axis)
        (entriesAt 1 strides axis) (entriesAt 2 pad axis) =
      entriesAt 1 (padAmounts padType extents kernelSizes strides pad) axis := by
  rw [padAmounts, axes_entriesAt, padAmounts, entriesAt_map]

theorem outputExtents_entriesAt (padType : PadType)
    (extents kernelSizes strides pad : List Binary64) (ceilMode : Bool) (axis : ℕ) :
    outputExtents padType (entriesAt 1 extents axis) (entriesAt 1 kernelSizes axis)
        (entriesAt 1 strides axis) (entriesAt 2 pad axis) ceilMode =
      entriesAt 1 (outputExtents padType extents kernelSizes strides pad ceilMode) axis := by
  rw [outputExtents, axes_entriesAt, outputExtents, entriesAt_map]

/-! ### The node of one axis -/

/-- Behind batch and channel it does not matter where a dim stands. -/
theorem Dim.allowedAt_iff_two {index : ℕ} (behind : 2 ≤ index) (dim : Dim) :
    dim.AllowedAt index ↔ dim.AllowedAt 2 := by
  rw [Dim.allowedAt_spatial_iff behind, Dim.allowedAt_spatial_iff le_rfl]

theorem dims_allowed_iff {shape : Shape} :
    (∀ index (dim : Dim), shape[index]? = some dim → dim.AllowedAt index) ↔
      (∀ index (dim : Dim), (shape.take 2)[index]? = some dim → dim.AllowedAt index) ∧
        ∀ dim ∈ shape.drop 2, Dim.AllowedAt 2 dim := by
  constructor
  · intro all
    refine ⟨fun index dim found => all index dim ?_, fun dim member => ?_⟩
    · have inFront : index < 2 :=
        (List.getElem?_eq_some_iff.mp found).1.trans_le (List.length_take_le 2 shape)
      rw [List.getElem?_take_of_lt inFront] at found
      exact found
    · obtain ⟨offset, found⟩ := List.mem_iff_getElem?.mp member
      rw [List.getElem?_drop] at found
      exact (Dim.allowedAt_iff_two (Nat.le_add_right 2 offset) dim).mp (all _ dim found)
  · rintro ⟨leading, spatial⟩ index dim found
    rcases lt_or_ge index 2 with inFront | behind
    · exact leading index dim (by rw [List.getElem?_take_of_lt inFront, found])
    · refine (Dim.allowedAt_iff_two behind dim).mpr (spatial dim ?_)
      refine List.mem_iff_getElem?.mpr ⟨index - 2, ?_⟩
      rw [List.getElem?_drop, Nat.add_sub_cancel' behind, found]

/-- How many entries a list has for each axis. -/
def AxisList.width : AxisList → ℕ
  | kernelSizes => 1
  | strides => 1
  | pad => 2

theorem AxisList.countFor_eq (list : AxisList) (spatialRank : ℕ) :
    list.countFor spatialRank = list.width * spatialRank := by
  cases list with
  | kernelSizes => exact (one_mul spatialRank).symm
  | strides => exact (one_mul spatialRank).symm
  | pad => rfl

namespace Node

/-- The node with one of its spatial axes only. Lists that are not set stay so. -/
def atAxis (node : Node) (axis : ℕ) : Node :=
  { node with
    input := { node.input with
      shape := node.input.shape.take 2 ++ entriesAt 1 (node.input.shape.drop 2) axis }
    attributes := { node.attributes with
      kernelSizes := entriesAt 1 node.attributes.kernelSizes axis
      strides := node.attributes.strides.map fun strides => entriesAt 1 strides axis
      pad := node.attributes.pad.map fun pad => entriesAt 2 pad axis } }

section Axis

variable {node : Node} {D axis : ℕ} (ranked : node.input.rank = D + 2) (inside : axis < D)

include ranked

theorem length_leading : (node.input.shape.take 2).length = 2 := by
  unfold TensorType.rank at ranked
  rw [List.length_take]
  omega

theorem length_spatial : (node.input.shape.drop 2).length = 1 * D := by
  unfold TensorType.rank at ranked
  rw [List.length_drop]
  omega

theorem drop_shape_atAxis :
    (node.atAxis axis).input.shape.drop 2 = entriesAt 1 (node.input.shape.drop 2) axis :=
  List.drop_left' (length_leading ranked)

theorem take_shape_atAxis : (node.atAxis axis).input.shape.take 2 = node.input.shape.take 2 :=
  List.take_left' (length_leading ranked)

include inside

theorem rank_atAxis : (node.atAxis axis).input.rank = 3 := by
  show (node.input.shape.take 2 ++ entriesAt 1 (node.input.shape.drop 2) axis).length = 3
  rw [List.length_append, length_leading ranked, length_entriesAt (length_spatial ranked) inside]

/-- Lists that are not set have the same default on every axis, so cutting out an axis and filling in
the defaults can be exchanged. -/
theorem resolve_atAxis :
    (node.atAxis axis).resolve = ⟨node.resolve.variant,
      { node.resolve.parameters with
        kernelSizes := entriesAt 1 node.resolve.parameters.kernelSizes axis
        strides := entriesAt 1 node.resolve.parameters.strides axis
        pad := entriesAt 2 node.resolve.parameters.pad axis }⟩ := by
  have variant : (node.atAxis axis).operator.variant (node.atAxis axis).attributes =
      node.operator.variant node.attributes := by
    show node.operator.variant _ = _
    cases node.operator <;> rfl
  have strides : (node.atAxis axis).attributes.strides.getD (Defaults.ofRank 3).strides =
      entriesAt 1 (node.attributes.strides.getD (Defaults.ofRank (D + 2)).strides) axis := by
    show (node.attributes.strides.map _).getD _ = _
    cases node.attributes.strides with
    | some strides => rfl
    | none => exact (one_mul D ▸ entriesAt_replicate 1 (1 : Binary64) inside).symm
  have pad : (node.atAxis axis).attributes.pad.getD (Defaults.ofRank 3).pad =
      entriesAt 2 (node.attributes.pad.getD (Defaults.ofRank (D + 2)).pad) axis := by
    show (node.attributes.pad.map _).getD _ = _
    cases node.attributes.pad with
    | some pad => rfl
    | none => exact (entriesAt_replicate 2 (0 : Binary64) inside).symm
  have padGiven : (node.atAxis axis).attributes.pad.isSome = node.attributes.pad.isSome :=
    Option.isSome_map
  unfold resolve Attributes.resolve
  dsimp only
  rw [rank_atAxis ranked inside, ranked, variant, strides, pad, padGiven]
  rfl

/-- The entries of a list on one axis. -/
theorem values_atAxis (list : AxisList) :
    list.values (node.atAxis axis).resolve.parameters =
      entriesAt list.width (list.values node.resolve.parameters) axis := by
  rw [resolve_atAxis ranked inside]
  cases list <;> rfl

theorem symmetric_atAxis_iff :
    (node.atAxis axis).resolve.parameters.Symmetric 0 ↔ node.resolve.parameters.Symmetric axis := by
  have before := getElem?_entriesAt node.resolve.parameters.pad axis two_pos
  have after := getElem?_entriesAt node.resolve.parameters.pad axis one_lt_two
  unfold Parameters.Symmetric HoldsAt
  rw [resolve_atAxis ranked inside]
  simp only [mul_zero, zero_add, before, after, add_zero]

end Axis

/-! ### Conditions axis by axis -/

section Meets

variable {node : Node} {target : String} {padType : PadType} {D : ℕ}
  (ranked : node.input.rank = D + 2)

include ranked

/-- What holds of all axes holds of one. -/
theorem meets_atAxis {axis : ℕ} (inside : axis < D)
    (meets : node.resolve.Meets node.input target padType) :
    (node.atAxis axis).resolve.Meets (node.atAxis axis).input target padType := by
  have spatialRank : node.input.rank - 2 = D := by omega
  have ranks := rank_atAxis ranked inside
  have resolved := resolve_atAxis ranked inside
  have axisRank : (node.atAxis axis).input.rank - 2 = 1 := by omega
  obtain ⟨leadingAllowed, spatialAllowed⟩ := dims_allowed_iff.mp meets.dims
  refine ⟨⟨meets.elementType, ?_, dims_allowed_iff.mpr ⟨?_, ?_⟩, ?_, ?_, ?_, ?_, ?_⟩, ?_,
    meets.target⟩
  · rw [ranks]
    decide
  · rw [take_shape_atAxis ranked]
    exact leadingAllowed
  · rw [drop_shape_atAxis ranked]
    exact fun dim member => spatialAllowed dim (mem_of_mem_entriesAt member)
  · intro list
    have values := values_atAxis ranked inside list
    obtain ⟨length, whole⟩ := meets.lists list
    rw [spatialRank, AxisList.countFor_eq] at length
    refine ⟨?_, fun entry member => whole entry (mem_of_mem_entriesAt (values ▸ member))⟩
    rw [values, length_entriesAt length inside, axisRank, AxisList.countFor_eq, mul_one]
  · rw [axisRank]
    exact fun _ => one_le_two
  · rw [resolved]
    exact meets.mode
  · rw [axisRank]
    exact fun _ => one_le_two
  · rw [resolved]
    exact meets.ceilSame
  · intro up given only first
    rw [axisRank] at first
    obtain rfl : only = 0 := Nat.lt_one_iff.mp first
    rw [resolved] at up given
    exact (symmetric_atAxis_iff ranked inside).mpr
      (meets.symmetric up given axis (spatialRank.symm ▸ inside))

/-- What holds of every axis by itself holds of all, apart from their number and the lengths of the
lists. -/
theorem meets_of_atAxis (positive : 1 ≤ D) (few : D ≤ 3)
    (flat : node.resolve.operator = .l2Pool → D ≤ 2)
    (ceilFlat : node.resolve.parameters.ceilMode = true → D ≤ 2)
    (lengths : ∀ list : AxisList, (list.values node.resolve.parameters).length = list.countFor D)
    (each : ∀ axis < D,
      (node.atAxis axis).resolve.Meets (node.atAxis axis).input target padType) :
    node.resolve.Meets node.input target padType := by
  have spatialRank : node.input.rank - 2 = D := by omega
  have first := each 0 positive
  have resolved := resolve_atAxis ranked positive
  refine ⟨⟨first.elementType, ⟨by omega, by omega⟩, dims_allowed_iff.mpr ⟨?_, ?_⟩, ?_, ?_, ?_, ?_,
    ?_⟩, ?_, first.target⟩
  · have leading : (node.atAxis 0).input.shape.take 2 = node.input.shape.take 2 :=
      take_shape_atAxis ranked
    rw [← leading]
    exact (dims_allowed_iff.mp first.dims).1
  · intro dim member
    obtain ⟨axis, inside, axisMember⟩ := exists_mem_entriesAt (length_spatial ranked) member
    rw [← drop_shape_atAxis ranked] at axisMember
    exact (dims_allowed_iff.mp (each axis inside).dims).2 dim axisMember
  · intro list
    rw [spatialRank]
    refine ⟨lengths list, fun entry member => ?_⟩
    have length := (lengths list).trans (list.countFor_eq D)
    obtain ⟨axis, inside, axisMember⟩ := exists_mem_entriesAt length member
    rw [← values_atAxis ranked inside] at axisMember
    exact ((each axis inside).lists list).whole entry axisMember
  · rw [spatialRank]
    exact flat
  · have mode := first.mode
    rw [resolved] at mode
    exact mode
  · rw [spatialRank]
    exact ceilFlat
  · have ceilSame := first.ceilSame
    rw [resolved] at ceilSame
    exact ceilSame
  · intro up given axis inside
    rw [spatialRank] at inside
    have symmetric := (each axis inside).symmetric
    rw [rank_atAxis ranked inside, resolve_atAxis ranked inside] at symmetric
    have alike := symmetric up given 0 one_pos
    rw [← resolve_atAxis ranked inside] at alike
    exact (symmetric_atAxis_iff ranked inside).mp alike

end Meets

/-- The lengths of the lists that are filled in come to those of the lists that are set. -/
theorem lengths_iff {node : Node} {D : ℕ} (ranked : node.input.rank = D + 2) :
    (∀ list : AxisList, (list.values node.resolve.parameters).length = list.countFor D) ↔
      node.attributes.kernelSizes.length = D ∧
        (∀ strides, node.attributes.strides = some strides → strides.length = D) ∧
        ∀ pad, node.attributes.pad = some pad → pad.length = 2 * D := by
  have strides : (AxisList.strides.values node.resolve.parameters).length = D ↔
      ∀ strides, node.attributes.strides = some strides → strides.length = D := by
    show (node.attributes.strides.getD (List.replicate (node.input.rank - 2) 1)).length = D ↔ _
    cases node.attributes.strides <;> simp [ranked]
  have pad : (AxisList.pad.values node.resolve.parameters).length = 2 * D ↔
      ∀ pad, node.attributes.pad = some pad → pad.length = 2 * D := by
    show (node.attributes.pad.getD (List.replicate (2 * (node.input.rank - 2)) 0)).length = _ ↔ _
    cases node.attributes.pad <;> simp [ranked]
  rw [← strides, ← pad]
  refine ⟨fun all => ⟨all .kernelSizes, all .strides, all .pad⟩, ?_⟩
  rintro ⟨kernelSizesLength, stridesLength, padLength⟩ (_ | _ | _)
  exacts [kernelSizesLength, stridesLength, padLength]

/-! ### Explanations axis by axis -/

section Explained

variable {node : Node} {target : String} {padType : PadType} {D axis : ℕ}
  (ranked : node.input.rank = D + 2) (inside : axis < D)

theorem spatialExtents_of_drop {shape : Shape} {extents : List Binary64}
    (dims : shape.drop 2 = extents.map Dim.extent) : shape.spatialExtents = extents := by
  unfold Shape.spatialExtents Shape.leadingRank
  rw [dims, List.filterMap_map]
  exact List.filterMap_some

include ranked

theorem spatialExtents_atAxis (meets : node.resolve.Meets node.input target padType) :
    (node.atAxis axis).input.shape.spatialExtents =
      entriesAt 1 node.input.shape.spatialExtents axis := by
  have all := (TensorType.forall_requirements_iff node.input).mpr
    ⟨meets.elementType, meets.rank, meets.dims⟩
  refine spatialExtents_of_drop ?_
  rw [drop_shape_atAxis ranked, TensorType.drop_eq_spatialExtents all, entriesAt_map]

include inside

theorem checkedAxes_atAxis (extents : List Binary64) :
    (node.atAxis axis).checkedAxes ⟨padType, entriesAt 1 extents axis⟩ =
      entriesAt 1 (node.checkedAxes ⟨padType, extents⟩) axis := by
  unfold checkedAxes
  rw [resolve_atAxis ranked inside]
  exact axes_entriesAt _ _ _ _ axis

/-- The node of an axis shows for its only axis what the node shows for that axis. -/
theorem explained_atAxis (meets : node.resolve.Meets node.input target padType) :
    let explanation := node.explained ⟨padType, node.input.shape.spatialExtents⟩
    let other := (node.atAxis axis).explained ⟨padType, (node.atAxis axis).input.shape.spatialExtents⟩
    ∃ padding out, other.padAmounts = [padding] ∧ explanation.padAmounts[axis]? = some padding ∧
      other.outputType.shape = node.input.shape.take 2 ++ [.extent out] ∧
      explanation.outputType.shape[axis + 2]? = some (.extent out) := by
  intro explanation other
  obtain ⟨whole, D', K, S, before, after, holds⟩ :=
    exists_acceptedAxis meets.validate (show axis < node.input.rank - 2 by omega)
  have alone : (node.atAxis axis).checkedAxes
      ⟨padType, (node.atAxis axis).input.shape.spatialExtents⟩ = [whole] := by
    rw [spatialExtents_atAxis ranked meets, checkedAxes_atAxis ranked inside,
      entriesAt_one_of_getElem? holds.found]
  refine ⟨whole.padding padType, whole.windows (whole.padding padType)
    node.resolve.parameters.ceilMode, ?_, holds.amountsAt, ?_, holds.outputAt⟩
  · rw [padAmounts_explained, alone]
    rfl
  · rw [outputType_explained, alone, resolve_atAxis ranked inside]
    show (node.atAxis axis).input.shape.take 2 ++ _ = _
    rw [take_shape_atAxis ranked]
    rfl

end Explained

section Accepted

variable {node : Node} {configuration : Configuration} {options : Options} {D : ℕ}
  (positive : 1 ≤ D) (ranked : node.input.rank = D + 2)

include positive ranked

theorem accepted_iff_atAxis :
    (∃ explanation, (node.explain configuration options).result = .ok explanation) ↔
      D ≤ 3 ∧ (node.operator = .l2Pool ∨ node.attributes.ceilMode = some true → D ≤ 2) ∧
        node.attributes.kernelSizes.length = D ∧
        (∀ strides, node.attributes.strides = some strides → strides.length = D) ∧
        (∀ pad, node.attributes.pad = some pad → pad.length = 2 * D) ∧
        ∀ axis < D, ∃ explanation,
          ((node.atAxis axis).explain configuration options).result = .ok explanation := by
  have spatialRank : node.input.rank - 2 = D := by omega
  constructor
  · rintro ⟨explanation, accepted⟩
    obtain ⟨padType, meets, -⟩ := explain_eq_ok_iff_meets.mp accepted
    have lengths := (lengths_iff ranked).mp fun list => spatialRank ▸ (meets.lists list).length
    refine ⟨by have := meets.rank.2; omega, ?_, lengths.1, lengths.2.1, lengths.2.2, ?_⟩
    · rintro (isL2 | up)
      · exact spatialRank ▸ meets.flat (node.operator_resolve.trans isL2)
      · exact spatialRank ▸ meets.ceilFlat (node.ceilMode_resolve_iff.mpr up)
    · intro axis inside
      exact ⟨_, explain_eq_ok_iff_meets.mpr ⟨padType, meets_atAxis ranked inside meets, rfl⟩⟩
  · rintro ⟨few, flat, kernelSizesLength, stridesLength, padLength, each⟩
    obtain ⟨first, firstAccepted⟩ := each 0 positive
    obtain ⟨padType, firstMeets, -⟩ := explain_eq_ok_iff_meets.mp firstAccepted
    have meets : node.resolve.Meets node.input (options.targetUnder configuration) padType := by
      refine meets_of_atAxis ranked positive few ?_ ?_ ?_ ?_
      · exact fun isL2 => flat (Or.inl (node.operator_resolve.symm.trans isL2))
      · exact fun up => flat (Or.inr (node.ceilMode_resolve_iff.mp up))
      · exact (lengths_iff ranked).mpr ⟨kernelSizesLength, stridesLength, padLength⟩
      · intro axis inside
        obtain ⟨explanation, accepted⟩ := each axis inside
        obtain ⟨otherType, axisMeets, -⟩ := explain_eq_ok_iff_meets.mp accepted
        -- the mode is read from the same text on every axis
        have mode : some otherType = some padType := axisMeets.mode.symm.trans firstMeets.mode
        exact Option.some_inj.mp mode ▸ axisMeets
    exact ⟨_, explain_eq_ok_iff_meets.mpr ⟨padType, meets, rfl⟩⟩

end Accepted

end Node

/-- The padding and the extents computed from the entries of one axis alone are those of the axis. -/
theorem computed_at_axis (padType : PadType) {extents kernelSizes strides pad : List Binary64}
    (ceilMode : Bool) {axis : ℕ} {extent kernel stride before after : Binary64}
    (extentAt : extents[axis]? = some extent) (kernelAt : kernelSizes[axis]? = some kernel)
    (strideAt : strides[axis]? = some stride) (beforeAt : pad[2 * axis]? = some before)
    (afterAt : pad[2 * axis + 1]? = some after) :
    ∃ padding out,
      padAmounts padType [extent] [kernel] [stride] [before, after] = [padding] ∧
        (padAmounts padType extents kernelSizes strides pad)[axis]? = some padding ∧
        outputExtents padType [extent] [kernel] [stride] [before, after] ceilMode = [out] ∧
        (outputExtents padType extents kernelSizes strides pad ceilMode)[axis]? = some out := by
  have amounts := padAmounts_entriesAt padType extents kernelSizes strides pad axis
  have outputs := outputExtents_entriesAt padType extents kernelSizes strides pad ceilMode axis
  have inside : axis < (axes extents kernelSizes strides pad).length :=
    (length_axes _ _ _ _).symm ▸ (List.getElem?_eq_some_iff.mp extentAt).1
  obtain ⟨padding, paddingAt⟩ :
      ∃ padding, (padAmounts padType extents kernelSizes strides pad)[axis]? = some padding :=
    ⟨_, List.getElem?_eq_getElem (by rwa [padAmounts, List.length_map])⟩
  obtain ⟨out, outAt⟩ :
      ∃ out, (outputExtents padType extents kernelSizes strides pad ceilMode)[axis]? = some out :=
    ⟨_, List.getElem?_eq_getElem (by rwa [outputExtents, List.length_map])⟩
  rw [entriesAt_one_of_getElem? extentAt, entriesAt_one_of_getElem? kernelAt,
    entriesAt_one_of_getElem? strideAt, entriesAt_two_of_getElem? beforeAt afterAt] at amounts outputs
  rw [entriesAt_one_of_getElem? paddingAt] at amounts
  rw [entriesAt_one_of_getElem? outAt] at outputs
  exact ⟨padding, out, amounts, paddingAt, outputs, outAt⟩

/-- A node with at least one spatial axis is accepted exactly if it does not have too many for its
operator and for rounding up, its lists are as long as its axes ask for, and the node of every axis is
accepted. It then reports for each axis the padding and the extent that the node of the axis reports,
and keeps the element type, the rank and the leading dims of its input. The padding and the extents are
computed axis by axis for any number of axes and for all numbers. -/
theorem explain_axis_by_axis (node : Node) (configuration : Configuration) (options : Options)
    (D : ℕ) (positive : 1 ≤ D) (ranked : node.input.rank = D + 2) :
    ((∃ explanation, (node.explain configuration options).result = .ok explanation) ↔
      D ≤ 3 ∧ (node.operator = .l2Pool ∨ node.attributes.ceilMode = some true → D ≤ 2) ∧
        node.attributes.kernelSizes.length = D ∧
        (∀ strides, node.attributes.strides = some strides → strides.length = D) ∧
        (∀ pad, node.attributes.pad = some pad → pad.length = 2 * D) ∧
        ∀ axis < D, ∃ explanation,
          ((node.atAxis axis).explain configuration options).result = .ok explanation) ∧
    (∀ explanation, (node.explain configuration options).result = .ok explanation →
      explanation.outputType.elementType = node.input.elementType ∧
        explanation.outputType.rank = node.input.rank ∧
        explanation.outputType.shape.take 2 = node.input.shape.take 2 ∧
        explanation.padAmounts.length = D ∧
        ∀ axis < D, ∃ other padding out,
          ((node.atAxis axis).explain configuration options).result = .ok other ∧
            other.padAmounts = [padding] ∧ explanation.padAmounts[axis]? = some padding ∧
            other.outputType.shape = node.input.shape.take 2 ++ [.extent out] ∧
            explanation.outputType.shape[axis + 2]? = some (.extent out)) ∧
    ∀ padType (extents kernelSizes strides pad : List Binary64) ceilMode,
      kernelSizes.length = extents.length → strides.length = extents.length →
      pad.length = 2 * extents.length →
      (padAmounts padType extents kernelSizes strides pad).length = extents.length ∧
        (outputExtents padType extents kernelSizes strides pad ceilMode).length = extents.length ∧
        ∀ axis < extents.length, ∃ extent kernel stride before after padding out,
          extents[axis]? = some extent ∧ kernelSizes[axis]? = some kernel ∧
            strides[axis]? = some stride ∧ pad[2 * axis]? = some before ∧
            pad[2 * axis + 1]? = some after ∧
            padAmounts padType [extent] [kernel] [stride] [before, after] = [padding] ∧
            (padAmounts padType extents kernelSizes strides pad)[axis]? = some padding ∧
            outputExtents padType [extent] [kernel] [stride] [before, after] ceilMode = [out] ∧
            (outputExtents padType extents kernelSizes strides pad ceilMode)[axis]? =
              some out := by
  refine ⟨Node.accepted_iff_atAxis positive ranked, ?_, ?_⟩
  · intro explanation accepted
    obtain ⟨padType, meets, rfl⟩ := Node.explain_eq_ok_iff_meets.mp accepted
    have leading := Node.length_leading ranked
    have count := length_checkedAxes meets.validate
    rw [ranked, Nat.add_sub_cancel] at count
    refine ⟨rfl, ?_, ?_, ?_, ?_⟩
    · rw [Node.outputType_explained]
      show (node.input.shape.take 2 ++ List.map _ _).length = node.input.rank
      rw [List.length_append, List.length_map, List.length_map, leading, count, ranked, add_comm]
    · rw [Node.outputType_explained]
      exact List.take_left' leading
    · rw [Node.padAmounts_explained, List.length_map, count]
    · intro axis inside
      obtain ⟨padding, out, shown⟩ := Node.explained_atAxis ranked inside meets
      exact ⟨_, padding, out, Node.explain_eq_ok_iff_meets.mpr
        ⟨padType, Node.meets_atAxis ranked inside meets, rfl⟩, shown⟩
  · intro padType extents kernelSizes strides pad ceilMode kernelCount strideCount padCount
    refine ⟨?_, ?_, ?_⟩
    · rw [padAmounts, List.length_map, length_axes]
    · rw [outputExtents, List.length_map, length_axes]
    · intro axis inside
      have kernelAt := List.getElem?_eq_getElem (kernelCount.symm ▸ inside)
      have strideAt := List.getElem?_eq_getElem (strideCount.symm ▸ inside)
      have beforeAt := List.getElem?_eq_getElem (l := pad) (i := 2 * axis) (by omega)
      have afterAt := List.getElem?_eq_getElem (l := pad) (i := 2 * axis + 1) (by omega)
      have extentAt := List.getElem?_eq_getElem inside
      obtain ⟨padding, out, computed⟩ :=
        computed_at_axis padType ceilMode extentAt kernelAt strideAt beforeAt afterAt
      exact ⟨_, _, _, _, _, padding, out, extentAt, kernelAt, strideAt, beforeAt, afterAt, computed⟩

/-- Two axes with amounts of their own, the strides left unset. -/
def unevenNode : Node :=
  Node.create 1 .maxPool ⟨"fp32", [.symbol "N", .extent 3, .extent 10, .extent 7]⟩
    { Attributes.required [3, 2] "custom" with pad := some [1, 2, 0, 1] }

theorem second_axis_stands_alone :
    1 ≤ 2 ∧ unevenNode.input.rank = 2 + 2 ∧
      (unevenNode.explain ⟨.opset15, false⟩ ⟨none, none⟩).result =
        .ok (unevenNode.explained ⟨.custom, [10, 7]⟩) ∧
      ∃ other, ((unevenNode.atAxis 1).explain ⟨.opset15, false⟩ ⟨none, none⟩).result = .ok other ∧
        other.padAmounts = [⟨some 0, some 1⟩] ∧
        other.outputType.shape = [.symbol "N", .extent 3, .extent 7] := by
  have accepted : (unevenNode.explain ⟨.opset15, false⟩ ⟨none, none⟩).result =
      .ok (unevenNode.explained ⟨.custom, [10, 7]⟩) := by decide +kernel
  obtain ⟨-, shown, -⟩ := explain_axis_by_axis unevenNode ⟨.opset15, false⟩ ⟨none, none⟩ 2
    one_le_two rfl
  obtain ⟨-, -, -, -, each⟩ := shown _ accepted
  obtain ⟨other, padding, out, otherAccepted, amounts, amountAt, shape, outAt⟩ := each 1 one_lt_two
  have padded : (unevenNode.explained ⟨.custom, [10, 7]⟩).padAmounts[1]? =
      some ⟨some 0, some 1⟩ := by decide +kernel
  have counted : (unevenNode.explained ⟨.custom, [10, 7]⟩).outputType.shape[1 + 2]? =
      some (.extent 7) := by decide +kernel
  obtain rfl := Option.some_inj.mp (amountAt.symm.trans padded)
  obtain rfl := Dim.extent.inj (Option.some_inj.mp (outAt.symm.trans counted))
  exact ⟨one_le_two, rfl, accepted, other, otherAccepted, amounts, shape⟩

end Pooling
