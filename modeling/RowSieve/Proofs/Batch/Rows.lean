import RowSieve.Proofs.Batch.Thinning
import RowSieve.Proofs.Reader.Visible

/-!
# Batches as lists of rows

A batch shows its rows in two ways: as the cells of all columns, and as what the readable leaves
show to a predicate.  Cutting and thinning a batch choose among its rows, the same ones in both
ways, and leave the columns as they are.
-/

namespace RowSieve

/-!
## Cells of chosen rows
-/

namespace Leaf

theorem cellAt_eq (array : Leaf) (row : Nat) :
    array.cellAt row =
      if array.validity.holds row then
        (array.values.get? row).elim .null (Cell.ofSlot array.type)
      else .null := by
  unfold cellAt
  cases array.values.get? row <;> rfl

theorem cellAt_slice (array : Leaf) (offset : Nat) {length k : Nat} (hk : k < length) :
    (array.slice offset length).cellAt k = array.cellAt (offset + k) := by
  rw [cellAt_eq, cellAt_eq]
  show (if (array.validity.slice offset length).holds k then
      ((array.values.slice offset length).get? k).elim .null (Cell.ofSlot array.type)
    else .null) = _
  rw [Validity.holds_slice array.validity offset hk, Slots.get?_slice offset array.values hk]

theorem cellAt_select
    {array : Leaf} {mask : Mask} (hmask : mask.length = array.rows)
    (hcovers : array.validity.Covers mask.length) {k row : Nat}
    (hrow : mask.rows[k]? = some row) :
    (array.select mask).cellAt k = array.cellAt row := by
  rw [cellAt_eq, cellAt_eq]
  show (if (array.validity.select mask).holds k then
      ((array.values.select mask).get? k).elim .null (Cell.ofSlot array.type)
    else .null) = _
  rw [Validity.holds_select hcovers hrow, Slots.get?_select hmask hrow]

end Leaf

namespace Columns

theorem cellsAt_slice (columns : Columns) (offset : Nat) {length k : Nat} (hk : k < length) :
    (columns.slice offset length).cellsAt k = columns.cellsAt (offset + k) := by
  induction columns with
  | nil => rfl
  | leaf name array rest ih =>
      simp only [slice, cellsAt, ih, Leaf.cellAt_slice array offset hk]
  | struct name validity own fields rest ihfields ih =>
      simp only [slice, cellsAt, ihfields, ih, Validity.holds_slice validity offset hk]

theorem cellsAt_select
    {rows : Nat} {columns : Columns} (hrect : columns.Rectangular rows) {mask : Mask}
    (hmask : mask.length = rows) {k row : Nat} (hrow : mask.rows[k]? = some row) :
    (columns.select mask).cellsAt k = columns.cellsAt row := by
  induction columns with
  | nil => rfl
  | leaf name array rest ih =>
      rcases hrect with ⟨hrows, hvalidity, hrest⟩
      have hcovers : array.validity.Covers mask.length := by
        rw [hmask]
        exact hvalidity
      have hcell := Leaf.cellAt_select (hmask.trans hrows.symm) hcovers hrow
      simp only [select, cellsAt, ih hrest, hcell]
  | struct name validity own fields rest ihfields ih =>
      rcases hrect with ⟨_, hvalidity, hfields, hrest⟩
      have hcovers : validity.Covers mask.length := by
        rw [hmask]
        exact hvalidity
      have hholds := Validity.holds_select hcovers hrow
      simp only [select, cellsAt, ihfields hfields, ih hrest, hholds]

end Columns

namespace Batch

/-- The paths of the readable leaves, in depth-first order. -/
def leafPaths (batch : Batch) : List ColumnPath :=
  batch.leafColumns.map LeafColumn.path

/-- What the readable leaves show to a predicate at `row`, in depth-first order. -/
def viewsAt (batch : Batch) (row : Nat) : List (Reading Failure.Kind) :=
  batch.leafColumns.map fun column => column.viewAt row

/-- What the readable leaves show to a predicate, row by row. -/
def viewRows (batch : Batch) : List (List (Reading Failure.Kind)) :=
  (List.range batch.rows).map batch.viewsAt

/-- What all columns show, row by row. -/
def cellRows (batch : Batch) : List (List (String × Cell)) :=
  (List.range batch.rows).map fun row => batch.columns.cellsAt row

/-- The columns of `part` are those of `whole`, and its rows are those that `choose` takes from
`whole`, for cells and for what predicates see alike. -/
structure ShowsChosen
    (choose : {α : Type} → List α → List α) (whole part : Batch) : Prop where
  schema : part.columns.schema = whole.columns.schema
  leafPaths : part.leafPaths = whole.leafPaths
  cellRows : part.cellRows = choose whole.cellRows
  viewRows : part.viewRows = choose whole.viewRows

variable {batch kept : Batch} {mask : Mask}

@[simp] theorem length_cellRows (batch : Batch) : batch.cellRows.length = batch.rows := by
  simp [cellRows]

@[simp] theorem length_viewRows (batch : Batch) : batch.viewRows.length = batch.rows := by
  simp [viewRows]

theorem getElem?_cellRows {row : Nat} (hrow : row < batch.rows) :
    batch.cellRows[row]? = some (batch.columns.cellsAt row) := by
  simp [cellRows, hrow]

/-!
## Cutting and thinning choose rows
-/

theorem leafColumns_slice (offset length : Nat) (batch : Batch) :
    (batch.slice offset length).leafColumns =
      batch.leafColumns.map (LeafColumn.slice offset length) := by
  show ((batch.columns.slice offset length).leaves).filterMap PlacedLeaf.column? = _
  rw [Columns.leaves_slice, List.filterMap_map, leafColumns, List.map_filterMap]
  congr 1
  funext leaf
  exact PlacedLeaf.column?_slice offset length leaf

theorem leafColumns_select (mask : Mask) (batch : Batch) (rows : Nat) :
    (Batch.mk (batch.columns.select mask) rows).leafColumns =
      batch.leafColumns.map (LeafColumn.select mask) := by
  show ((batch.columns.select mask).leaves).filterMap PlacedLeaf.column? = _
  rw [Columns.leaves_select, List.filterMap_map, leafColumns, List.map_filterMap]
  congr 1
  funext leaf
  exact PlacedLeaf.column?_select mask leaf

theorem leafPaths_slice (offset length : Nat) (batch : Batch) :
    (batch.slice offset length).leafPaths = batch.leafPaths := by
  rw [leafPaths, leafColumns_slice, List.map_map]
  rfl

theorem viewsAt_slice
    (hformed : batch.WellFormed) {offset length k : Nat}
    (hk : k < min length (batch.rows - offset)) :
    (batch.slice offset length).viewsAt k = batch.viewsAt (offset + k) := by
  rw [viewsAt, leafColumns_slice, List.map_map]
  apply List.map_congr_left
  intro column hcolumn
  exact LeafColumn.viewAt_slice (fits_of_mem_leafColumns hformed hcolumn) hk

theorem showsChosen_slice (hformed : batch.WellFormed) (offset length : Nat) :
    ShowsChosen (window offset length) batch (batch.slice offset length) where
  schema := Columns.schema_slice offset length batch.columns
  leafPaths := leafPaths_slice offset length batch
  cellRows := by
    apply map_range_window
    intro k hk
    have hlength : k < length := by omega
    exact Columns.cellsAt_slice batch.columns offset hlength
  viewRows := by
    apply map_range_window
    intro k hk
    exact viewsAt_slice hformed hk

theorem viewsAt_select
    (hformed : batch.WellFormed) (hmask : mask.length = batch.rows) {k row : Nat}
    (hrow : mask.rows[k]? = some row) :
    (Batch.mk (batch.columns.select mask) mask.marked).viewsAt k = batch.viewsAt row := by
  rw [viewsAt, leafColumns_select, List.map_map]
  apply List.map_congr_left
  intro column hcolumn
  exact LeafColumn.viewAt_select (fits_of_mem_leafColumns hformed hcolumn) hmask hrow

theorem showsChosen_thinned (hformed : batch.WellFormed) (hmask : mask.length = batch.rows) :
    ShowsChosen mask.select batch ⟨batch.columns.select mask, mask.marked⟩ where
  schema := Columns.schema_select mask batch.columns
  leafPaths := by
    rw [leafPaths, leafColumns_select, List.map_map]
    rfl
  cellRows := by
    apply Mask.map_range_marked hmask
    intro k row hrow
    exact Columns.cellsAt_select hformed hmask hrow
  viewRows := by
    apply Mask.map_range_marked hmask
    intro k row hrow
    exact viewsAt_select hformed hmask hrow

/-- Whichever way the marked rows are kept, they are what the kept batch shows. -/
theorem showsChosen_select
    (hformed : batch.WellFormed) (hmask : mask.length = batch.rows)
    (hkept : batch.select mask = .ok kept) :
    ShowsChosen mask.select batch kept := by
  have hcells : mask.length = batch.cellRows.length := by simp [hmask]
  have hviews : mask.length = batch.viewRows.length := by simp [hmask]
  rcases select_eq_ok hkept with ⟨hnone, hempty⟩ | ⟨hall, hsame⟩ | hthinned
  · have hfront := showsChosen_slice hformed 0 0
    rw [hempty]
    constructor
    · exact hfront.schema
    · exact hfront.leafPaths
    · rw [hfront.cellRows, Mask.select_eq_nil hcells hnone]
      rfl
    · rw [hfront.viewRows, Mask.select_eq_nil hviews hnone]
      rfl
  · have hfull : mask.marked = mask.length := hall.trans hmask.symm
    rw [hsame]
    constructor
    · rfl
    · rfl
    · exact (Mask.select_eq_self hcells hfull).symm
    · exact (Mask.select_eq_self hviews hfull).symm
  · rw [hthinned]
    exact showsChosen_thinned hformed hmask

theorem rows_of_select
    (hformed : batch.WellFormed) (hmask : mask.length = batch.rows)
    (hkept : batch.select mask = .ok kept) :
    kept.rows = mask.marked := by
  have hcells : mask.length = batch.cellRows.length := by simp [hmask]
  rw [← length_cellRows kept, (showsChosen_select hformed hmask hkept).cellRows,
    Mask.length_select mask batch.cellRows hcells]

end Batch

/-!
## Cells column by column

The cells of a batch, column by column, are its rows turned on their side.  So batches with the same
schema and the same rows have the same cells.
-/

namespace Schema

/-- The names of the top columns. -/
def names : Schema → List String
  | .nil => []
  | .leaf name _ rest => name :: rest.names
  | .struct name _ rest => name :: rest.names

/-- What the rows show in each of the top columns, under the column's name. -/
def columnwise (schema : Schema) (rows : List (List (String × Cell))) :
    List (String × List Cell) :=
  schema.names.mapIdx fun place name => (name, rows.filterMap fun row => row[place]?.map Prod.snd)

end Schema

theorem Columns.names_schema (columns : Columns) :
    columns.schema.names = columns.toList.map Prod.fst := by
  induction columns with
  | nil => rfl
  | leaf name array rest ih => exact congrArg (name :: ·) ih
  | struct name validity rows fields rest _ ih => exact congrArg (name :: ·) ih

namespace Batch

theorem cells_eq_columnwise (batch : Batch) :
    batch.cells = batch.columns.schema.columnwise batch.cellRows := by
  apply List.ext_getElem?
  intro place
  rw [cells, Schema.columnwise, List.getElem?_map, List.getElem?_mapIdx, Columns.names_schema,
    List.getElem?_map, Option.map_map]
  cases hcolumn : batch.columns.toList[place]? with
  | none => rfl
  | some column =>
      have hcells : (batch.cellRows.filterMap fun row => row[place]?.map Prod.snd) =
          (List.range batch.rows).map fun row => column.2.cellAt row := by
        rw [cellRows, List.filterMap_map, ← List.filterMap_eq_map]
        congr 1
        funext row
        simp [Columns.cellsAt_eq_map, hcolumn]
      simp only [Option.map_some, Function.comp_apply, hcells]

/-- The batches have the same columns and the same rows, cell by cell. -/
structure ShowsSame (batch other : Batch) : Prop where
  schema : batch.columns.schema = other.columns.schema
  rows : batch.rows = other.rows
  cells : batch.cells = other.cells

theorem showsSame_of_cellRows
    {batch other : Batch} (hschema : batch.columns.schema = other.columns.schema)
    (hrows : batch.cellRows = other.cellRows) :
    batch.ShowsSame other where
  schema := hschema
  rows := by rw [← length_cellRows batch, hrows, length_cellRows]
  cells := by rw [cells_eq_columnwise, cells_eq_columnwise, hschema, hrows]

/-!
## A batch to look at

Four cars.  The third has no engine, though the fields of its engine hold values; the capacity of
the second is unknown.  One column has a dotted name, one cannot be read.
-/

def cars : Batch where
  columns :=
    .leaf "model" ⟨.utf8, .listed ["fiesta", "golf", "panda", "supra"], .all⟩ <|
    .struct "engine" (.ofBits [true, true, false, true]) 4
      (.leaf "capacity"
          ⟨.int32, .listed [1000, 0, 2000, 3000], .ofBits [true, false, true, true]⟩ <|
       .leaf "turbo" ⟨.boolean, .listed [true, false, true, true], .all⟩ .nil) <|
    .leaf "engine.capacity" ⟨.int64, .listed [1, 2, 3, 4], .all⟩ <|
    .leaf "doors" ⟨.int8, .listed [3, 5, 5, 2], .ofBits [true, true, true, false]⟩ .nil
  rows := 4

end Batch
end RowSieve
