import RowSieve.Column.Columns
import RowSieve.Failure

/-!
# Record batches

Columns with a common number of rows.  Apart from its slots a batch has a schema, and what it shows
at a row are its cells.
-/

namespace RowSieve

/-!
## Schemas

The names and types of columns without their slots, and the texts that name types with fields.
-/

/-- Named types of columns, in order. -/
inductive Schema
  | nil
  | leaf (name : String) (type : LeafType) (rest : Schema)
  | struct (name : String) (fields rest : Schema)
  deriving DecidableEq

namespace Schema

/-- The text of a struct type whose fields have the given texts. -/
def structText (fields : List String) : String :=
  "Struct([" ++ ", ".intercalate fields ++ "])"

def fieldTexts : Schema → List String
  | .nil => []
  | .leaf name type rest => LeafType.fieldText name type.text :: rest.fieldTexts
  | .struct name fields rest =>
      LeafType.fieldText name (structText fields.fieldTexts) :: rest.fieldTexts

end Schema

namespace Columns

def schema : Columns → Schema
  | .nil => .nil
  | .leaf name array rest => .leaf name array.type rest.schema
  | .struct name _ _ fields rest => .struct name fields.schema rest.schema

@[simp] theorem schema_slice (offset length : Nat) (columns : Columns) :
    (columns.slice offset length).schema = columns.schema := by
  induction columns with
  | nil => rfl
  | leaf name array rest ih => simp [slice, schema, ih, Leaf.slice]
  | struct name validity rows fields rest ihfields ih => simp [slice, schema, ihfields, ih]

@[simp] theorem schema_select (mask : Mask) (columns : Columns) :
    (columns.select mask).schema = columns.schema := by
  induction columns with
  | nil => rfl
  | leaf name array rest ih => simp [select, schema, ih, Leaf.select]
  | struct name validity rows fields rest ihfields ih => simp [select, schema, ihfields, ih]

end Columns

namespace Column

/-- The text that names the type of an array. -/
def typeText : Column → String
  | .leaf array => array.type.text
  | .struct _ _ fields => Schema.structText fields.schema.fieldTexts

end Column

/-!
## Cells

What a row of a column shows: nothing where the row is null, a slot of a leaf, or the cells of a
struct's fields.  A null struct shows nothing, whatever its fields hold.
-/

/-- What one row of a column shows. -/
inductive Cell
  | null
  | slot (type : LeafType) (value : type.Slot)
  | struct (fields : List (String × Cell))

namespace Cell

/-- What a slot shows; one of the type that holds nothing shows nothing. -/
def ofSlot : (type : LeafType) → type.Slot → Cell
  | .null, _ => .null
  | type, value => .slot type value

end Cell

namespace Leaf

def cellAt (array : Leaf) (row : Nat) : Cell :=
  if array.validity.holds row then
    match array.values.get? row with
    | some value => .ofSlot array.type value
    | none => .null
  else .null

end Leaf

namespace Columns

def cellsAt (row : Nat) : Columns → List (String × Cell)
  | .nil => []
  | .leaf name array rest => (name, array.cellAt row) :: rest.cellsAt row
  | .struct name validity _ fields rest =>
      (name, if validity.holds row then .struct (fields.cellsAt row) else .null) ::
        rest.cellsAt row

end Columns

namespace Column

def cellAt (row : Nat) : Column → Cell
  | .leaf array => array.cellAt row
  | .struct validity _ fields =>
      if validity.holds row then .struct (fields.cellsAt row) else .null

end Column

namespace Columns

theorem cellsAt_eq_map (row : Nat) (columns : Columns) :
    columns.cellsAt row = columns.toList.map fun column => (column.1, column.2.cellAt row) := by
  induction columns with
  | nil => rfl
  | leaf name array rest ih => simp [cellsAt, toList, Column.cellAt, ih]
  | struct name validity rows fields rest _ ih => simp [cellsAt, toList, Column.cellAt, ih]

end Columns

/-!
## Batches

A batch can be cut to a range of rows and thinned to the rows of a mask.  Thinning fails in one case
only: some but not all rows are kept, and a column comes out with another number of rows than were
kept, which happens when its first fields lead to a struct without fields.
-/

structure Batch where
  columns : Columns
  rows : Nat

namespace Batch

/-- The batch of a list of named arrays, as long as the first of them; `rows` counts when there is
none. -/
def ofColumns (columns : List (String × Column)) (rows : Nat) : Batch where
  columns := .ofList columns
  rows := ((columns.head?).map fun column => column.2.rows).getD rows

/-- All columns of a well-formed batch have its number of rows, at every depth. -/
def WellFormed (batch : Batch) : Prop :=
  batch.columns.Rectangular batch.rows

instance (batch : Batch) : Decidable batch.WellFormed :=
  inferInstanceAs (Decidable (batch.columns.Rectangular batch.rows))

/-- The rows from `offset` on, at most `length` of them. -/
def slice (offset length : Nat) (batch : Batch) : Batch where
  columns := batch.columns.slice offset length
  rows := min length (batch.rows - offset)

def select (mask : Mask) (batch : Batch) : Except Failure Batch :=
  if mask.marked = 0 then .ok (batch.slice 0 0)
  else if mask.marked = batch.rows then .ok batch
  else if (batch.columns.select mask).allHaveRows mask.marked then
    .ok ⟨batch.columns.select mask, mask.marked⟩
  else .error (.arrow "all columns in a record batch must have the specified row count")

/-- What each column shows, row by row. -/
def cells (batch : Batch) : List (String × List Cell) :=
  batch.columns.toList.map fun column =>
    (column.1, (List.range batch.rows).map fun row => column.2.cellAt row)

end Batch

end RowSieve
