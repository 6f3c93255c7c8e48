import Mathlib.Data.List.Forall2
import RowSieve.Proofs.Batch.Rows
import RowSieve.Proofs.Reader.Address
import RowSieve.Proofs.Reader.Visible
import RowSieve.Reader.Shelf

/-!
# Flattening keeps what leaves mean

The readers of a batch stand for the leaves that can be read, each for one of them, in depth-first
order.  A reader gives the names on the route to its leaf as its path.  At a row it is null where
the route is, and gives the value of the leaf's slot elsewhere; this is what a walk to the leaf
finds in the cells of the row.
-/

namespace RowSieve

/-!
## Routes in order

Flattening goes through the leaves in the order of their addresses.  The columns that are left over
after some are passed keep their places, so the listing starts at any place.
-/

namespace Columns

def routesFrom (first : Nat) : Columns → List (Address × Route)
  | .nil => []
  | .leaf name array rest => ([first], ⟨[name], [], array⟩) :: rest.routesFrom (first + 1)
  | .struct name validity _ fields rest =>
      (fields.routesFrom 0).map
          (fun found => (first :: found.1, found.2.below name validity)) ++
        rest.routesFrom (first + 1)

theorem mem_routesFrom
    {columns : Columns} {first : Nat} {address : Address} {route : Route} :
    (address, route) ∈ columns.routesFrom first ↔
      ∃ place deeper, address = (first + place) :: deeper ∧
        columns.routeTo? (place :: deeper) = some route := by
  induction columns generalizing first address route with
  | nil =>
      constructor
      · intro hmem
        cases hmem
      · rintro ⟨_, _, _, hroute⟩
        cases hroute
  | leaf name array rest ih =>
      simp only [routesFrom, List.mem_cons, Prod.mk.injEq, ih]
      constructor
      · rintro (⟨haddress, hroute⟩ | ⟨place, deeper, haddress, hroute⟩)
        · exact ⟨0, [], haddress, hroute ▸ rfl⟩
        · refine ⟨place + 1, deeper, ?_, hroute⟩
          rw [haddress, Nat.add_right_comm, Nat.add_assoc]
      · rintro ⟨place, deeper, haddress, hroute⟩
        cases place with
        | zero =>
            cases deeper with
            | nil =>
                cases hroute
                exact .inl ⟨haddress, rfl⟩
            | cons place deeper => cases hroute
        | succ place =>
            refine .inr ⟨place, deeper, ?_, hroute⟩
            rw [haddress, Nat.add_right_comm, Nat.add_assoc]
  | struct name validity own fields rest ihfields ih =>
      simp only [routesFrom, List.mem_append, List.mem_map, Prod.mk.injEq, Prod.exists, ih]
      constructor
      · rintro (⟨inside, inner, hinside, haddress, hroute⟩ | ⟨place, deeper, haddress, hroute⟩)
        · rcases ihfields.mp hinside with ⟨place, deeper, hfound, hinner⟩
          rw [Nat.zero_add] at hfound
          refine ⟨0, inside, haddress.symm, ?_⟩
          show (fields.routeTo? inside).map (Route.below name validity) = some route
          rw [hfound, hinner, ← hroute]
          rfl
        · refine ⟨place + 1, deeper, ?_, hroute⟩
          rw [haddress, Nat.add_right_comm, Nat.add_assoc]
      · rintro ⟨place, deeper, haddress, hroute⟩
        cases place with
        | zero =>
            rcases Option.map_eq_some_iff.mp hroute with ⟨inner, hinner, hmade⟩
            refine .inl ⟨deeper, inner, ?_, haddress.symm, hmade⟩
            cases deeper with
            | nil =>
                rw [routeTo?_nil] at hinner
                cases hinner
            | cons place deeper =>
                exact ihfields.mpr ⟨place, deeper, by rw [Nat.zero_add], hinner⟩
        | succ place =>
            refine .inr ⟨place, deeper, ?_, hroute⟩
            rw [haddress, Nat.add_right_comm, Nat.add_assoc]

theorem mem_routesFrom_zero {columns : Columns} {address : Address} {route : Route} :
    (address, route) ∈ columns.routesFrom 0 ↔ columns.routeTo? address = some route := by
  constructor
  · intro hmem
    rcases mem_routesFrom.mp hmem with ⟨place, deeper, haddress, hroute⟩
    rw [haddress, Nat.zero_add]
    exact hroute
  · intro hroute
    cases address with
    | nil =>
        rw [routeTo?_nil] at hroute
        cases hroute
    | cons place deeper =>
        exact mem_routesFrom.mpr ⟨place, deeper, by rw [Nat.zero_add], hroute⟩

theorem cons_lt_of_mem_routesFrom
    {columns : Columns} {first : Nat} {found : Address × Route}
    (hfound : found ∈ columns.routesFrom (first + 1)) (deeper : Address) :
    first :: deeper < found.1 := by
  rcases mem_routesFrom.mp hfound with ⟨place, below, haddress, _⟩
  rw [haddress]
  exact List.cons_lt_cons_iff.mpr (.inl (by omega))

theorem pairwise_routesFrom (columns : Columns) (first : Nat) :
    ((columns.routesFrom first).map Prod.fst).Pairwise (· < ·) := by
  induction columns generalizing first with
  | nil => exact .nil
  | leaf name array rest ih =>
      apply List.Pairwise.cons
      · intro address haddress
        rcases List.mem_map.mp haddress with ⟨found, hfound, hsame⟩
        rw [← hsame]
        exact cons_lt_of_mem_routesFrom hfound []
      · exact ih (first + 1)
  | struct name validity own fields rest ihfields ih =>
      simp only [routesFrom, List.map_append, List.map_map]
      apply List.pairwise_append.mpr
      refine ⟨?_, ih (first + 1), ?_⟩
      · have hfields := ihfields 0
        rw [List.pairwise_map] at hfields ⊢
        apply hfields.imp
        intro earlier later horder
        exact List.cons_lt_cons_iff.mpr (.inr ⟨rfl, horder⟩)
      · intro inside hinside after hafter
        rcases List.mem_map.mp hinside with ⟨inner, _, hinner⟩
        rcases List.mem_map.mp hafter with ⟨found, hfound, hsame⟩
        rw [← hinner, ← hsame]
        exact cons_lt_of_mem_routesFrom hfound inner.1

end Columns

/-!
## Placed leaves

Flattening carries the names of the structs around a column and what is left of their validities.
-/

namespace Route

def placed (path : ColumnPath) (outer : Validity) (route : Route) : PlacedLeaf where
  path := path ++ route.names
  validity := (route.structs.foldl Validity.meet outer).meet route.leaf.validity
  array := route.leaf

theorem placed_below
    (path : ColumnPath) (outer : Validity) (name : String) (validity : Validity) (route : Route) :
    (route.below name validity).placed path outer =
      route.placed (path ++ [name]) (outer.meet validity) := by
  simp only [placed, below, List.foldl_cons, List.append_assoc, List.singleton_append]

variable {rows : Nat} {structs : List Validity} {outer : Validity}

theorem covers_foldl_meet
    (hstructs : ∀ validity ∈ structs, validity.Covers rows) (houter : outer.Covers rows) :
    (structs.foldl Validity.meet outer).Covers rows := by
  induction structs generalizing outer with
  | nil => exact houter
  | cons validity structs ih =>
      rcases List.forall_mem_cons.mp hstructs with ⟨hvalidity, hdeeper⟩
      exact ih hdeeper (Validity.covers_meet houter hvalidity)

theorem holds_foldl_meet
    (hstructs : ∀ validity ∈ structs, validity.Covers rows) (houter : outer.Covers rows)
    (row : Nat) :
    (structs.foldl Validity.meet outer).holds row = true ↔
      outer.holds row = true ∧ ∀ validity ∈ structs, validity.holds row = true := by
  induction structs generalizing outer with
  | nil => exact ⟨fun hholds => ⟨hholds, fun _ hnone => nomatch hnone⟩, And.left⟩
  | cons validity structs ih =>
      rcases List.forall_mem_cons.mp hstructs with ⟨hvalidity, hdeeper⟩
      rw [List.foldl_cons, ih hdeeper (Validity.covers_meet houter hvalidity),
        Validity.holds_meet houter hvalidity, Bool.and_eq_true, List.forall_mem_cons, and_assoc]

theorem covers_placed {route : Route} (hcovers : route.Covers rows) (path : ColumnPath) :
    (route.placed path .all).validity.Covers rows := by
  have houter : Validity.all.Covers rows := trivial
  exact Validity.covers_meet (covers_foldl_meet hcovers.structs_cover houter) hcovers.leaf_covers

theorem holds_placed_iff
    {route : Route} (hcovers : route.Covers rows) (path : ColumnPath) (row : Nat) :
    (route.placed path .all).validity.holds row = true ↔ ¬ route.NullAt row := by
  have houter : Validity.all.Covers rows := trivial
  have hfolded := covers_foldl_meet hcovers.structs_cover houter
  show ((route.structs.foldl Validity.meet .all).meet route.leaf.validity).holds row = true ↔ _
  rw [Validity.holds_meet hfolded hcovers.leaf_covers, Bool.and_eq_true,
    holds_foldl_meet hcovers.structs_cover houter, not_nullAt_iff]
  constructor
  · rintro ⟨⟨_, hstructs⟩, hleaf⟩
    exact ⟨hleaf, hstructs⟩
  · rintro ⟨hleaf, hstructs⟩
    exact ⟨⟨rfl, hstructs⟩, hleaf⟩

end Route

namespace Columns

theorem leavesBelow_eq_map
    (columns : Columns) (first : Nat) (path : ColumnPath) (outer : Validity) :
    columns.leavesBelow path outer =
      (columns.routesFrom first).map fun found => found.2.placed path outer := by
  induction columns generalizing first path outer with
  | nil => rfl
  | leaf name array rest ih =>
      rw [leavesBelow, ih (first + 1)]
      rfl
  | struct name validity rows fields rest ihfields ih =>
      simp only [leavesBelow, routesFrom, List.map_append, List.map_map, Function.comp_def,
        Route.placed_below]
      rw [ihfields 0, ih (first + 1)]

theorem leaves_eq_map (columns : Columns) :
    columns.leaves = (columns.routesFrom 0).map fun found => found.2.placed [] .all :=
  leavesBelow_eq_map columns 0 [] .all

section
variable {columns : Columns} {keep : Address × Route → Bool}

theorem pairwise_filter_routesFrom :
    (((columns.routesFrom 0).filter keep).map Prod.fst).Pairwise (· < ·) := by
  have hall := pairwise_routesFrom columns 0
  rw [List.pairwise_map] at hall
  exact List.pairwise_map.mpr (hall.filter _)

theorem mem_filter_routesFrom {address : Address} :
    address ∈ ((columns.routesFrom 0).filter keep).map Prod.fst ↔
      ∃ route, columns.routeTo? address = some route ∧ keep (address, route) = true := by
  constructor
  · intro hmem
    rcases List.mem_map.mp hmem with ⟨⟨_, route⟩, hfound, hsame⟩
    rcases List.mem_filter.mp hfound with ⟨hroute, hkept⟩
    rw [← hsame]
    exact ⟨route, mem_routesFrom_zero.mp hroute, hkept⟩
  · rintro ⟨route, hroute, hkept⟩
    apply List.mem_map.mpr
    exact ⟨(address, route), List.mem_filter.mpr ⟨mem_routesFrom_zero.mpr hroute, hkept⟩, rfl⟩

end

/-- The addresses of the leaves that can be read. -/
def readableAddresses (columns : Columns) : List Address :=
  ((columns.routesFrom 0).filter fun found => found.2.Readable).map Prod.fst

theorem pairwise_readableAddresses (columns : Columns) :
    columns.readableAddresses.Pairwise (· < ·) :=
  pairwise_filter_routesFrom

theorem mem_readableAddresses {columns : Columns} {address : Address} :
    address ∈ columns.readableAddresses ↔
      ∃ route, columns.routeTo? address = some route ∧ route.Readable := by
  rw [readableAddresses, mem_filter_routesFrom]
  simp only [decide_eq_true_eq]

end Columns

namespace Route

/-- The column that a batch gets for the leaf, if it can be read. -/
def column? (route : Route) : Option LeafColumn :=
  (route.placed [] .all).column?

theorem isSome_column? (route : Route) : route.column?.isSome = true ↔ route.Readable := by
  show (route.leaf.type.physicalType?.map _).isSome = true ↔ _
  rw [Option.isSome_map]
  rfl

end Route

theorem forall₂_filterMap
    {α β : Type} {related : α → β → Prop} {keep : α → Bool} {f : α → Option β} {xs : List α}
    (hkeep : ∀ x, keep x = (f x).isSome)
    (hrelated : ∀ x ∈ xs, ∀ y, f x = some y → related x y) :
    List.Forall₂ related (xs.filter keep) (xs.filterMap f) := by
  induction xs with
  | nil => exact .nil
  | cons x xs ih =>
      rcases List.forall_mem_cons.mp hrelated with ⟨hhere, hrest⟩
      rw [List.filter_cons, List.filterMap_cons, hkeep]
      cases hmade : f x with
      | none => exact ih hrest
      | some y => exact .cons (hhere y hmade) (ih hrest)

namespace Batch

theorem leafColumns_eq_filterMap (batch : Batch) :
    batch.leafColumns = (batch.columns.routesFrom 0).filterMap fun found => found.2.column? := by
  rw [leafColumns, Columns.leaves_eq_map, List.filterMap_map]
  rfl

/-- The leaf columns of a batch are those of its readable routes, one by one. -/
theorem forall₂_leafColumns (batch : Batch) :
    List.Forall₂ (fun found column => found ∈ batch.columns.routesFrom 0 ∧
        found.2.column? = some column)
      ((batch.columns.routesFrom 0).filter fun found => found.2.Readable) batch.leafColumns := by
  rw [leafColumns_eq_filterMap]
  apply forall₂_filterMap
  · intro found
    rw [Bool.eq_iff_iff, decide_eq_true_eq, Route.isSome_column?]
  · intro found hfound column hcolumn
    exact ⟨hfound, hcolumn⟩

theorem length_leafColumns (batch : Batch) :
    batch.leafColumns.length = batch.columns.readableAddresses.length := by
  rw [Columns.readableAddresses, List.length_map]
  exact (forall₂_leafColumns batch).length_eq.symm

theorem exists_leafColumn
    {batch : Batch} {handle : Nat} {address : Address}
    (haddress : batch.columns.readableAddresses[handle]? = some address) :
    ∃ route column, batch.columns.routeTo? address = some route ∧
      route.column? = some column ∧ batch.leafColumns[handle]? = some column := by
  rw [Columns.readableAddresses, List.getElem?_map] at haddress
  rcases Option.map_eq_some_iff.mp haddress with ⟨⟨_, route⟩, hfound, hsame⟩
  rcases List.getElem?_eq_some_iff.mp hfound with ⟨hhandle, hget⟩
  rcases List.forall₂_iff_get.mp (forall₂_leafColumns batch) with ⟨hlength, hcolumns⟩
  have hcolumn := hlength ▸ hhandle
  have hhere := hcolumns handle hhandle hcolumn
  simp only [List.get_eq_getElem, hget] at hhere
  refine ⟨route, batch.leafColumns[handle], ?_, hhere.2, List.getElem?_eq_getElem hcolumn⟩
  rw [← hsame]
  exact Columns.mem_routesFrom_zero.mp hhere.1

end Batch

/-!
## Readers in the place of leaves

A reader stands for a leaf by the names on the route to it and by its type.  What it tells at a row
is compared with the route and, independently of routes, with the cell at the end of a walk.
-/

namespace Cell

theorem ofSlot_of_readable
    {type : LeafType} (hreadable : type.physicalType?.isSome = true) (slot : type.Slot) :
    ofSlot type slot = .slot type slot := by
  cases type <;> first | rfl | cases hreadable

end Cell

namespace Reading

/-- A cell is told by its nullness, or else by the accessor for the declared type, which gives what
it takes from the slot. -/
def Tells (reading : Reading Failure) : Cell → Prop
  | .null => reading.isNull = true
  | .slot type slot =>
      reading.isNull = false ∧
        ∃ payload, reading.get reading.declared.accessor = .ok payload ∧
          reading.declared.accessor.take? type slot = some payload
  | .struct _ => False

end Reading

namespace Reader

/-- A reader at `row` that gives the names and the type of the leaf at the end of the route. -/
structure StandsFor (route : Route) (row rows : Nat) (reader : Reader) : Prop where
  path_eq : reader.path = route.names
  declares : route.leaf.type.physicalType? = some reader.declared
  cursor_eq : reader.cursor? = some (row, rows)

/-- What the reader tells is what the leaf and the structs around it hold at `row`. -/
structure TellsLeaf (route : Route) (row : Nat) (reader : Reader) : Prop where
  null_iff : reader.reading.isNull = true ↔ route.NullAt row
  value : ¬ route.NullAt row →
    ∃ slot, route.leaf.values.get? row = some slot ∧
      reader.reading.Tells (.slot route.leaf.type slot)

end Reader

namespace Shelf

/-- The shelf after some moves of cursors, each a number of handles and the row they go to. -/
def moved (moves : List (List Handle × Nat)) (shelf : Shelf) : Shelf :=
  moves.foldl (fun shelf move => shelf.seek move.1 move.2) shelf

/-- The readers on the shelf are, one by one, those of the leaves at the addresses. -/
structure Reads (batch : Batch) (addresses : List Address) (shelf : Shelf) : Prop where
  depth_first : addresses.Pairwise (· < ·)
  complete : ∀ address, address ∈ addresses ↔
    ∃ route, batch.columns.routeTo? address = some route ∧ route.Readable
  one_each : shelf.length = addresses.length
  fresh : ∀ (handle : Handle) address route, addresses[handle]? = some address →
    batch.columns.routeTo? address = some route →
    ∃ reader : Reader, shelf[handle]? = some reader ∧ reader.StandsFor route 0 batch.rows
  told : ∀ (handle : Handle) address route, addresses[handle]? = some address →
    batch.columns.routeTo? address = some route →
    ∀ moves handles row, handle ∈ handles → row < batch.rows →
    ∃ reader : Reader, ((shelf.moved moves).seek handles row)[handle]? = some reader ∧
      reader.StandsFor route row batch.rows ∧ reader.TellsLeaf route row ∧
      ∃ cell, (Cell.struct (batch.columns.cellsAt row)).walk address = some cell ∧
        reader.reading.Tells cell

/-- At `row` the reader behind the handle gives the value as one of the type that it declares. -/
def GivesAt (handle : Handle) (row : Nat) (value : Value) (shelf : Shelf) : Prop :=
  ∃ reader : Reader, (shelf.seek [handle] row)[handle]? = some reader ∧
    reader.reading.isNull = false ∧ reader.reading.read reader.declared = .ok value

def NullAt (handle : Handle) (row : Nat) (shelf : Shelf) : Prop :=
  ∃ reader : Reader, (shelf.seek [handle] row)[handle]? = some reader ∧
    reader.reading.isNull = true

section
variable {batch : Batch} {addresses : List Address} {shelf : Shelf} {handle : Handle}
  {address : Address} {route : Route} {row : Nat}

theorem Reads.givesAt (hreads : shelf.Reads batch addresses)
    (haddress : addresses[handle]? = some address)
    (hroute : batch.columns.routeTo? address = some route) (hrow : row < batch.rows)
    (declared : PhysicalType) (hdeclares : route.leaf.type.physicalType? = some declared)
    {type : LeafType} {slot : type.Slot}
    (hwalk : (Cell.struct (batch.columns.cellsAt row)).walk address = some (.slot type slot))
    {payload : declared.accessor.Payload}
    (htake : declared.accessor.take? type slot = some payload) :
    shelf.GivesAt handle row (declared.tag payload) := by
  have hown : handle ∈ [handle] := List.mem_singleton_self handle
  rcases hreads.told handle address route haddress hroute [] [handle] row hown hrow with
    ⟨reader, hreader, hstands, _, cell, hcell, htells⟩
  cases hwalk.symm.trans hcell
  cases hdeclares.symm.trans hstands.declares
  refine ⟨reader, hreader, htells.1, ?_⟩
  rcases htells.2 with ⟨given, hget, htaken⟩
  cases reader with
  | leaf column row =>
      cases htake.symm.trans htaken
      exact congrArg (Except.map _) hget
  | settable path declared current =>
      cases htake.symm.trans htaken
      exact congrArg (Except.map _) hget

theorem Reads.nullAt (hreads : shelf.Reads batch addresses)
    (haddress : addresses[handle]? = some address)
    (hroute : batch.columns.routeTo? address = some route) (hrow : row < batch.rows)
    (hwalk : (Cell.struct (batch.columns.cellsAt row)).walk address = some .null) :
    shelf.NullAt handle row := by
  have hown : handle ∈ [handle] := List.mem_singleton_self handle
  rcases hreads.told handle address route haddress hroute [] [handle] row hown hrow with
    ⟨reader, hreader, _, _, cell, hcell, htells⟩
  cases hwalk.symm.trans hcell
  exact ⟨reader, hreader, htells⟩

end

theorem getElem?_moved
    {shelf : Shelf} {handle : Handle} {column : LeafColumn} {row : Nat}
    (hreader : shelf[handle]? = some (.leaf column row)) (moves : List (List Handle × Nat)) :
    ∃ later, (shelf.moved moves)[handle]? = some (.leaf column later) := by
  induction moves generalizing shelf row with
  | nil => exact ⟨row, hreader⟩
  | cons move moves ih =>
      have hmoved : (shelf.seek move.1 move.2)[handle]? =
          some (.leaf column (if handle ∈ move.1 then move.2 else row)) := by
        rw [getElem?_seek, hreader]
        by_cases hown : handle ∈ move.1 <;> simp [hown, Reader.seek]
      exact ih hmoved

end Shelf

namespace LeafColumn

variable {rows row : Nat} {route : Route} {column : LeafColumn}

theorem fits_of_column? (hcovers : route.Covers rows) (hcolumn : route.column? = some column) :
    column.Fits rows ∧ column.path = route.names ∧ column.array = route.leaf := by
  have hvalidity := Route.covers_placed hcovers []
  rcases PlacedLeaf.column?_eq_some hcolumn with ⟨hdeclared, heq⟩
  rw [heq]
  exact ⟨⟨hcovers.leaf_rows, hvalidity, hdeclared⟩, rfl, rfl⟩

theorem holds_iff_not_nullAt
    (hcovers : route.Covers rows) (hcolumn : route.column? = some column) (row : Nat) :
    column.validity.holds row = true ↔ ¬ route.NullAt row := by
  rcases PlacedLeaf.column?_eq_some hcolumn with ⟨_, heq⟩
  rw [heq]
  exact Route.holds_placed_iff hcovers [] row

theorem tells_slot
    (hfits : column.Fits rows) (hrow : row < rows) (hholds : column.validity.holds row = true)
    {slot : column.array.type.Slot} (hslot : column.array.values.get? row = some slot) :
    (column.readingAt row).Tells (.slot column.array.type slot) := by
  rcases visibleAt_of_holds hfits hslot hholds with ⟨value, hvisible, hvalue, htype⟩
  rcases Value.exists_tag htype with ⟨payload, hpayload⟩
  have hanswer : (Reading.showing column.path column.declared row (some value)).get
      column.declared.accessor = .ok payload := by
    simp only [Reading.showing, PhysicalType.readableAs_requested, if_true, hpayload,
      PhysicalType.payload?_tag]
  have htake : column.declared.accessor.take? column.array.type slot = some payload := by
    rw [Accessor.take?_eq, hvalue, Option.bind_some, hpayload, PhysicalType.payload?_tag]
  rw [readingAt_eq_showing hfits hrow, hvisible]
  exact ⟨rfl, payload, hanswer, htake⟩

theorem tellsLeaf
    (hcovers : route.Covers rows) (hcolumn : route.column? = some column) (hrow : row < rows) :
    (Reader.leaf column row).TellsLeaf route row := by
  rcases fits_of_column? hcovers hcolumn with ⟨hfits, _, harray⟩
  have hholds := holds_iff_not_nullAt hcovers hcolumn row
  constructor
  · show column.isNullAt row = true ↔ _
    rw [isNullAt_eq hfits hrow, Bool.not_eq_true', ← Bool.not_eq_true, hholds, Classical.not_not]
  · intro hpresent
    rcases exists_slot hfits hrow with ⟨slot, hslot⟩
    rw [← harray]
    exact ⟨slot, hslot, tells_slot hfits hrow (hholds.mpr hpresent) hslot⟩

theorem standsFor (hcolumn : route.column? = some column) (row : Nat) :
    (Reader.leaf column row).StandsFor route row route.leaf.rows := by
  rcases PlacedLeaf.column?_eq_some hcolumn with ⟨hdeclared, heq⟩
  rw [heq]
  exact ⟨rfl, hdeclared, rfl⟩

end LeafColumn

/-!
## The readers of a batch
-/

namespace Batch

theorem exists_reader
    {batch : Batch} (hformed : batch.WellFormed) {handle : Handle} {address : Address}
    {route : Route} (haddress : batch.columns.readableAddresses[handle]? = some address)
    (hroute : batch.columns.routeTo? address = some route) :
    ∃ column, route.Covers batch.rows ∧ route.column? = some column ∧
      (Shelf.ofColumns batch.leafColumns)[handle]? = some (.leaf column 0) := by
  rcases exists_leafColumn haddress with ⟨found, column, hfound, hmade, hcolumn⟩
  cases hroute.symm.trans hfound
  refine ⟨column, Columns.covers_of_routeTo? hformed hroute, hmade, ?_⟩
  rw [Shelf.ofColumns, List.getElem?_map, hcolumn]
  rfl

/-- What a column tells is what the walk finds in the cells of the row. -/
theorem exists_walk
    {batch : Batch} {address : Address} {route : Route} {column : LeafColumn} {row : Nat}
    (hroute : batch.columns.routeTo? address = some route) (hreadable : route.Readable)
    (htells : (Reader.leaf column row).TellsLeaf route row) :
    ∃ cell, (Cell.struct (batch.columns.cellsAt row)).walk address = some cell ∧
      (column.readingAt row).Tells cell := by
  rcases Columns.walk_cellsAt hroute with ⟨hgone, hthere⟩
  by_cases hnull : route.NullAt row
  · exact ⟨.null, hgone hnull, htells.null_iff.mpr hnull⟩
  · rcases htells.value hnull with ⟨slot, hslot, htold⟩
    refine ⟨.slot route.leaf.type slot, ?_, htold⟩
    rw [hthere hnull slot hslot, Cell.ofSlot_of_readable hreadable]

/-- Flattening preserves meaning: a batch gets one reader for each leaf that can be read, in
depth-first order and at the first row, and wherever the readers are moved they tell what the leaves
and the structs around them hold. -/
theorem reads_leafColumns {batch : Batch} (hformed : batch.WellFormed) :
    (Shelf.ofColumns batch.leafColumns).Reads batch batch.columns.readableAddresses where
  depth_first := Columns.pairwise_readableAddresses batch.columns
  complete _ := Columns.mem_readableAddresses
  one_each := by rw [Shelf.ofColumns, List.length_map, length_leafColumns]
  fresh := by
    intro handle address route haddress hroute
    rcases exists_reader hformed haddress hroute with ⟨column, hcovers, hmade, hreader⟩
    exact ⟨.leaf column 0, hreader, hcovers.leaf_rows ▸ LeafColumn.standsFor hmade 0⟩
  told := by
    intro handle address route haddress hroute moves handles row hown hrow
    rcases exists_reader hformed haddress hroute with ⟨column, hcovers, hmade, hreader⟩
    rcases Shelf.getElem?_moved hreader moves with ⟨earlier, hmoved⟩
    have hseek : (((Shelf.ofColumns batch.leafColumns).moved moves).seek handles row)[handle]? =
        some (.leaf column row) := by
      rw [Shelf.getElem?_seek, hmoved, Option.map_some, if_pos hown]
      rfl
    have hreadable := (Route.isSome_column? route).mp (Option.isSome_of_mem hmade)
    have htells := LeafColumn.tellsLeaf hcovers hmade hrow
    refine ⟨.leaf column row, hseek, ?_, htells, ?_⟩
    · exact hcovers.leaf_rows ▸ LeafColumn.standsFor hmade row
    · exact exists_walk hroute hreadable htells

/-- The supra has an engine of 3000; that of the golf is not known, and the panda has no engine,
though its fields hold a capacity of 2000.  Cut to these two, the batch is read in the same way. -/
theorem reads_leafColumns_cars :
    let readers := Shelf.ofColumns cars.leafColumns
    let cut := Shelf.ofColumns (cars.slice 1 2).leafColumns
    cars.WellFormed ∧ readers.Reads cars [[0], [1, 0], [1, 1], [2]] ∧
    (cars.slice 1 2).WellFormed ∧ cut.Reads (cars.slice 1 2) [[0], [1, 0], [1, 1], [2]] ∧
    readers.GivesAt 0 3 (.binary [0x73, 0x75, 0x70, 0x72, 0x61]) ∧
    readers.GivesAt 1 3 (.int32 3000) ∧ readers.GivesAt 2 3 (.boolean true) ∧
    readers.GivesAt 3 3 (.int64 4) ∧
    readers.NullAt 1 1 ∧ readers.NullAt 1 2 ∧
    cut.GivesAt 2 0 (.boolean false) ∧ cut.NullAt 1 0 ∧ cut.NullAt 2 1 := by
  intro readers cut
  have hwhole : cars.WellFormed := by decide
  have hsliced : (cars.slice 1 2).WellFormed := by decide
  have hreaders := reads_leafColumns hwhole
  have hcut := reads_leafColumns hsliced
  refine ⟨hwhole, hreaders, hsliced, hcut, ?_⟩
  refine ⟨?_, ?_, ?_, ?_, ?_, ?_, ?_, ?_, ?_⟩
  · exact hreaders.givesAt rfl rfl (by decide) .binary rfl rfl rfl
  · exact hreaders.givesAt rfl rfl (by decide) .int32 rfl rfl rfl
  · exact hreaders.givesAt rfl rfl (by decide) .boolean rfl rfl rfl
  · exact hreaders.givesAt rfl rfl (by decide) .int64 rfl rfl rfl
  · exact hreaders.nullAt rfl rfl (by decide) rfl
  · exact hreaders.nullAt rfl rfl (by decide) rfl
  · exact hcut.givesAt rfl rfl (by decide) .boolean rfl rfl rfl
  · exact hcut.nullAt rfl rfl (by decide) rfl
  · exact hcut.nullAt rfl rfl (by decide) rfl

end Batch
end RowSieve
