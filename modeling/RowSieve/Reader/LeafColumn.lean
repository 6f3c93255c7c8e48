import RowSieve.Batch
import RowSieve.Traced

/-!
# Readable leaf columns

A leaf of a readable type at its path can be read row by row.  The leaves of a batch are found by
flattening it.
-/

namespace RowSieve

/-!
## Columns to read

The validity of a column covers the leaf's own null slots and those of every struct around it.  What
the column shows at a row is decided by the requested type first, then by the bounds, then by
nullness.
-/

/-- A leaf that can be read as the physical type it declares. -/
structure LeafColumn where
  path : ColumnPath
  declared : PhysicalType
  array : Leaf
  validity : Validity

namespace LeafColumn

def rows (column : LeafColumn) : Nat :=
  column.array.rows

/-- Whether the column is null at `row`; past the end it is not. -/
def isNullAt (column : LeafColumn) (row : Nat) : Bool :=
  row < column.rows && !column.validity.holds row

/-- The slot at `row` for a reader who wants it as `requested`. -/
def slotAt (column : LeafColumn) (row : Nat) (requested : PhysicalType) :
    Except Failure column.array.type.Slot :=
  if column.declared.readableAs requested then
    match column.array.values.get? row with
    | none => .error (.rowOutOfBounds column.path row column.rows)
    | some slot =>
        if column.validity.holds row then .ok slot else .error (.nullValue column.path row)
  else .error (.readerTypeMismatch column.path requested column.declared)

def getAt (column : LeafColumn) (row : Nat) (accessor : Accessor) :
    Except Failure accessor.Payload :=
  match column.slotAt row accessor.requested with
  | .error failure => .error failure
  | .ok slot =>
      match (column.array.type.value? slot).bind accessor.payload? with
      | some payload => .ok payload
      | none => .error (.readerTypeMismatch column.path accessor.requested column.declared)

def readingAt (column : LeafColumn) (row : Nat) : Reading Failure where
  path := column.path
  declared := column.declared
  isNull := column.isNullAt row
  get := column.getAt row

/-- The column of a single array, if the array has a physical type. -/
def ofColumn (path : ColumnPath) (column : Column) : Except Failure LeafColumn :=
  let refused : Except Failure LeafColumn := .error <| .invalidArgument
    s!"column {path.dotted} has arrow type {column.typeText} with no physical counterpart"
  match column with
  | .struct _ _ _ => refused
  | .leaf array =>
      match array.type.physicalType? with
      | none => refused
      | some declared => .ok ⟨path, declared, array, array.validity⟩

end LeafColumn

/-!
## Flattening

The leaves of a batch in depth-first order, each with its path and with a validity that takes in
the null rows of the structs around it.  A leaf of a readable type becomes a column to read; any
other is left out and accounted for by an event.  It does not matter whether rows are dropped before
or after flattening (`leaves_slice`, `leaves_select`).
-/

/-- A leaf at its place among columns. -/
structure PlacedLeaf where
  path : ColumnPath
  validity : Validity
  array : Leaf

namespace PlacedLeaf

/-- The column to read, if the leaf has a physical type. -/
def column? (leaf : PlacedLeaf) : Option LeafColumn :=
  leaf.array.type.physicalType?.map fun declared =>
    ⟨leaf.path, declared, leaf.array, leaf.validity⟩

/-- The leaf's rows from `offset` on, at most `length` of them. -/
def slice (offset length : Nat) (leaf : PlacedLeaf) : PlacedLeaf :=
  ⟨leaf.path, leaf.validity.slice offset length, leaf.array.slice offset length⟩

def select (mask : Mask) (leaf : PlacedLeaf) : PlacedLeaf :=
  ⟨leaf.path, leaf.validity.select mask, leaf.array.select mask⟩

/-- The event that accounts for the leaf, if it has no physical type. -/
def skipped? (leaf : PlacedLeaf) : Option Event :=
  match leaf.array.type.physicalType? with
  | some _ => none
  | none => some (.columnSkipped leaf.path leaf.array.type)

theorem skipped?_eq_none_iff (leaf : PlacedLeaf) :
    leaf.skipped? = none ↔ leaf.column?.isSome := by
  unfold skipped? column?
  cases leaf.array.type.physicalType? <;> simp

end PlacedLeaf

namespace Columns

/-- The leaves of columns that lie below `path` inside structs of validity `outer`. -/
def leavesBelow (path : ColumnPath) (outer : Validity) : Columns → List PlacedLeaf
  | .nil => []
  | .leaf name array rest =>
      ⟨path ++ [name], outer.meet array.validity, array⟩ :: rest.leavesBelow path outer
  | .struct name validity _ fields rest =>
      fields.leavesBelow (path ++ [name]) (outer.meet validity) ++ rest.leavesBelow path outer

/-- The leaves of columns that no struct encloses. -/
def leaves (columns : Columns) : List PlacedLeaf :=
  columns.leavesBelow [] .all

theorem leavesBelow_slice
    (offset length : Nat) (path : ColumnPath) (outer : Validity) (columns : Columns) :
    (columns.slice offset length).leavesBelow path (outer.slice offset length) =
      (columns.leavesBelow path outer).map (PlacedLeaf.slice offset length) := by
  induction columns generalizing path outer with
  | nil => rfl
  | leaf name array rest ih =>
      simp only [slice, leavesBelow, ih, List.map_cons, PlacedLeaf.slice, Validity.slice_meet]
      rfl
  | struct name validity rows fields rest ihfields ih =>
      simp only [slice, leavesBelow, ← Validity.slice_meet, ihfields, ih, List.map_append]

theorem leavesBelow_select
    (mask : Mask) (path : ColumnPath) (outer : Validity) (columns : Columns) :
    (columns.select mask).leavesBelow path (outer.select mask) =
      (columns.leavesBelow path outer).map (PlacedLeaf.select mask) := by
  induction columns generalizing path outer with
  | nil => rfl
  | leaf name array rest ih =>
      simp only [select, leavesBelow, ih, List.map_cons, PlacedLeaf.select, Validity.select_meet]
      rfl
  | struct name validity rows fields rest ihfields ih =>
      simp only [select, leavesBelow, ← Validity.select_meet, ihfields, ih, List.map_append]

theorem leaves_slice (offset length : Nat) (columns : Columns) :
    (columns.slice offset length).leaves =
      columns.leaves.map (PlacedLeaf.slice offset length) :=
  leavesBelow_slice offset length [] .all columns

theorem leaves_select (mask : Mask) (columns : Columns) :
    (columns.select mask).leaves = columns.leaves.map (PlacedLeaf.select mask) :=
  leavesBelow_select mask [] .all columns

end Columns

namespace Batch

/-- The readable leaves of a batch in depth-first order. -/
def leafColumns (batch : Batch) : List LeafColumn :=
  batch.columns.leaves.filterMap PlacedLeaf.column?

/-- The events that account for the other leaves, in depth-first order. -/
def skippedEvents (batch : Batch) : List Event :=
  batch.columns.leaves.filterMap PlacedLeaf.skipped?

end Batch

end RowSieve
