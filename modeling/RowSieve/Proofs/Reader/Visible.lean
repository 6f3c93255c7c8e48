import RowSieve.Proofs.Batch.Selection
import RowSieve.Proofs.Text.Utf8
import RowSieve.Reader.LeafColumn

/-!
# What can be seen of a leaf column

At a row inside its array a leaf column shows its path, its declared type and either that it is null
or one value.  Nothing else can be told from its readings, in particular no value that is hidden
under a null slot or a null struct, and not how many rows there are.  Dropping rows before or after
looking makes no difference.
-/

namespace RowSieve

/-!
## Slots and validity of selected rows
-/

namespace Slots

variable {α : Type}

theorem exists_get? {slots : Slots α} {row : Nat} (hrow : row < slots.length) :
    ∃ slot, slots.get? row = some slot := by
  have hlength : row < slots.toList.length := by
    rw [length_toList]
    exact hrow
  rw [← getElem?_toList]
  exact ⟨slots.toList[row], List.getElem?_eq_getElem hlength⟩

theorem get?_select
    {mask : Mask} {slots : Slots α} (hmask : mask.length = slots.length) {k row : Nat}
    (hrow : mask.rows[k]? = some row) :
    (slots.select mask).get? k = slots.get? row := by
  have hlength : mask.length = slots.toList.length := by
    rw [length_toList]
    exact hmask
  rw [← getElem?_toList, toList_select, Mask.getElem?_select k mask _ hlength, hrow,
    ← getElem?_toList]
  rfl

end Slots

namespace Validity

theorem holds_select
    {mask : Mask} {validity : Validity} (hcovers : validity.Covers mask.length) {k row : Nat}
    (hrow : mask.rows[k]? = some row) :
    (validity.select mask).holds k = validity.holds row := by
  cases validity with
  | all => rfl
  | ofBits bits =>
      have hlength : mask.length = bits.length := hcovers.symm
      show (mask.select bits)[k]?.getD true = bits[row]?.getD true
      rw [Mask.getElem?_select k mask bits hlength, hrow]
      rfl

end Validity

/-!
## Values and their types
-/

namespace Value

theorem exists_tag {value : Value} {type : PhysicalType} (htype : value.physicalType = type) :
    ∃ payload, value = type.tag payload := by
  rw [← htype]
  cases value <;> exact ⟨_, rfl⟩

end Value

namespace PhysicalType

@[simp] theorem readableAs_requested (type : PhysicalType) :
    type.readableAs type.accessor.requested = true := by
  cases type <;> rfl

end PhysicalType

/-!
## What accessors take from slots

A slot is read by way of a tagged value.  Array by array, and without tags, an accessor takes what
the slot holds, and of a text its spelling in UTF-8.
-/

namespace Accessor

/-- What the accessor takes from a slot of an array, which has to be one of the arrays that it is
made for. -/
def take? : (accessor : Accessor) → (type : LeafType) → type.Slot → Option accessor.Payload
  | .integer, .int32, value => some value
  | .long, .int64, value => some value
  | .boolean, .boolean, value => some value
  | .binary, .utf8, text | .binary, .largeUtf8, text => some (Utf8.encode text)
  | .binary, .binary, bytes | .binary, .largeBinary, bytes => some bytes
  | .binary, .fixedSizeBinary _, bytes => some bytes
  | .float, .float32, value => some value
  | .double, .float64, value => some value
  | _, _, _ => none

theorem take?_eq (accessor : Accessor) (type : LeafType) (slot : type.Slot) :
    accessor.take? type slot = (type.value? slot).bind accessor.payload? := by
  cases accessor with
  | binary =>
      cases type with
      | utf8 => exact congrArg some (Utf8.ofText_eq_encode slot).symm
      | largeUtf8 => exact congrArg some (Utf8.ofText_eq_encode slot).symm
      | _ => rfl
  | _ => cases type <;> rfl

end Accessor

/-!
## Readings made of what is visible
-/

namespace Reading

/-- What a column shows at `row` when `visible` is all that can be seen of it there. -/
def showing (path : ColumnPath) (declared : PhysicalType) (row : Nat) (visible : Option Value) :
    Reading Failure where
  path := path
  declared := declared
  isNull := visible.isNone
  get accessor :=
    if declared.readableAs accessor.requested then
      match visible with
      | none => .error (.nullValue path row)
      | some value =>
          match accessor.payload? value with
          | some payload => .ok payload
          | none => .error (.readerTypeMismatch path accessor.requested declared)
    else .error (.readerTypeMismatch path accessor.requested declared)

/-- A predicate cannot tell at which row it looks. -/
theorem mapFailure_kind_showing
    (path : ColumnPath) (declared : PhysicalType) (row other : Nat) (visible : Option Value) :
    (showing path declared row visible).mapFailure Failure.kind =
      (showing path declared other visible).mapFailure Failure.kind := by
  have hget : ∀ accessor : Accessor,
      ((showing path declared row visible).get accessor).mapError Failure.kind =
        ((showing path declared other visible).get accessor).mapError Failure.kind := by
    intro accessor
    cases visible with
    | none =>
        simp only [showing]
        split <;> rfl
    | some value => rfl
  show (⟨path, declared, visible.isNone, _⟩ : Reading Failure.Kind) =
    ⟨path, declared, visible.isNone, _⟩
  exact congrArg (Reading.mk path declared visible.isNone) (funext hget)

end Reading

namespace LeafColumn

/-- The array and the validity have `rows` rows, and the declared type is that of the array. -/
structure Fits (rows : Nat) (column : LeafColumn) : Prop where
  rows_eq : column.rows = rows
  covers : column.validity.Covers rows
  declares : column.array.type.physicalType? = some column.declared

/-- The value that can be seen at `row`, if the column is not null there. -/
def visibleAt (column : LeafColumn) (row : Nat) : Option Value :=
  if column.validity.holds row then
    (column.array.values.get? row).bind column.array.type.value?
  else none

/-- What the column shows to a predicate at `row`. -/
def viewAt (column : LeafColumn) (row : Nat) : Reading Failure.Kind :=
  (column.readingAt row).mapFailure Failure.kind

variable {rows row : Nat} {column : LeafColumn}

theorem exists_slot (hfits : column.Fits rows) (hrow : row < rows) :
    ∃ slot, column.array.values.get? row = some slot := by
  have hbound : row < column.array.values.length := by
    rw [← hfits.rows_eq] at hrow
    exact hrow
  exact Slots.exists_get? hbound

theorem visibleAt_of_holds
    (hfits : column.Fits rows) {slot : column.array.type.Slot}
    (hslot : column.array.values.get? row = some slot) (hholds : column.validity.holds row = true) :
    ∃ value, column.visibleAt row = some value ∧ column.array.type.value? slot = some value ∧
      value.physicalType = column.declared := by
  rcases LeafType.value?_isSome hfits.declares slot with ⟨value, hvalue, htype⟩
  refine ⟨value, ?_, hvalue, htype⟩
  rw [visibleAt, if_pos hholds, hslot]
  exact hvalue

theorem visibleAt_of_not_holds (hholds : column.validity.holds row = false) :
    column.visibleAt row = none := by
  rw [visibleAt, hholds]
  rfl

theorem isNullAt_eq (hfits : column.Fits rows) (hrow : row < rows) :
    column.isNullAt row = !column.validity.holds row := by
  have hbound : row < column.rows := by
    rw [hfits.rows_eq]
    exact hrow
  simp [isNullAt, hbound]

theorem readingAt_eq_showing (hfits : column.Fits rows) (hrow : row < rows) :
    column.readingAt row =
      .showing column.path column.declared row (column.visibleAt row) := by
  rcases exists_slot hfits hrow with ⟨slot, hslot⟩
  have hnull : column.isNullAt row = (column.visibleAt row).isNone := by
    rw [isNullAt_eq hfits hrow]
    cases hholds : column.validity.holds row with
    | false => rw [visibleAt_of_not_holds hholds]; rfl
    | true =>
        rcases visibleAt_of_holds hfits hslot hholds with ⟨value, hvisible, _, _⟩
        rw [hvisible]
        rfl
  have hget : ∀ accessor, column.getAt row accessor =
      (Reading.showing column.path column.declared row (column.visibleAt row)).get accessor := by
    intro accessor
    by_cases hreadable : column.declared.readableAs accessor.requested = true
    · cases hholds : column.validity.holds row with
      | false =>
          rw [visibleAt_of_not_holds hholds]
          simp [getAt, slotAt, Reading.showing, hreadable, hslot, hholds]
      | true =>
          rcases visibleAt_of_holds hfits hslot hholds with ⟨value, hvisible, hvalue, _⟩
          rw [hvisible]
          cases hpayload : accessor.payload? value with
          | none =>
              simp [getAt, slotAt, Reading.showing, hreadable, hslot, hholds, hvalue, hpayload]
          | some payload =>
              simp [getAt, slotAt, Reading.showing, hreadable, hslot, hholds, hvalue, hpayload]
    · simp [getAt, slotAt, Reading.showing, hreadable]
  show (⟨column.path, column.declared, column.isNullAt row, column.getAt row⟩ : Reading Failure) =
    _
  rw [hnull, funext hget]
  rfl

theorem viewAt_congr
    {otherRows otherRow : Nat} {other : LeafColumn} (hfits : column.Fits rows) (hrow : row < rows)
    (hother : other.Fits otherRows) (hotherRow : otherRow < otherRows)
    (hpath : column.path = other.path) (hdeclared : column.declared = other.declared)
    (hvisible : column.visibleAt row = other.visibleAt otherRow) :
    column.viewAt row = other.viewAt otherRow := by
  rw [viewAt, viewAt, readingAt_eq_showing hfits hrow, readingAt_eq_showing hother hotherRow,
    hpath, hdeclared, hvisible]
  exact Reading.mapFailure_kind_showing _ _ _ _ _

/-!
## Columns with fewer rows
-/

/-- The column's rows from `offset` on, at most `length` of them. -/
def slice (offset length : Nat) (column : LeafColumn) : LeafColumn :=
  ⟨column.path, column.declared, column.array.slice offset length,
    column.validity.slice offset length⟩

/-- The column's marked rows. -/
def select (mask : Mask) (column : LeafColumn) : LeafColumn :=
  ⟨column.path, column.declared, column.array.select mask, column.validity.select mask⟩

theorem fits_slice (hfits : column.Fits rows) (offset length : Nat) :
    (column.slice offset length).Fits (min length (rows - offset)) where
  rows_eq := by
    rw [← hfits.rows_eq]
    exact Slots.length_slice offset length column.array.values
  covers := Validity.covers_slice hfits.covers offset length
  declares := hfits.declares

theorem fits_select (hfits : column.Fits rows) {mask : Mask} (hmask : mask.length = rows) :
    (column.select mask).Fits mask.marked where
  rows_eq := Slots.length_select mask column.array.values (hmask.trans hfits.rows_eq.symm)
  covers := Validity.covers_select hfits.covers hmask
  declares := hfits.declares

theorem viewAt_slice
    (hfits : column.Fits rows) {offset length k : Nat} (hk : k < min length (rows - offset)) :
    (column.slice offset length).viewAt k = column.viewAt (offset + k) := by
  have hlength : k < length := by omega
  have hrow : offset + k < rows := by omega
  apply viewAt_congr (fits_slice hfits offset length) hk hfits hrow rfl rfl
  show (if (column.validity.slice offset length).holds k then
      ((column.array.values.slice offset length).get? k).bind column.array.type.value?
    else none) = _
  rw [Validity.holds_slice column.validity offset hlength,
    Slots.get?_slice offset column.array.values hlength]
  rfl

theorem viewAt_select
    (hfits : column.Fits rows) {mask : Mask} (hmask : mask.length = rows) {k : Nat}
    (hrow : mask.rows[k]? = some row) :
    (column.select mask).viewAt k = column.viewAt row := by
  have hk : k < mask.marked := Mask.lt_marked_of_getElem?_rows hrow
  have hbound : row < rows := by
    rw [← hmask]
    exact Mask.lt_length_of_getElem?_rows hrow
  have hcovers : column.validity.Covers mask.length := by
    rw [hmask]
    exact hfits.covers
  apply viewAt_congr (fits_select hfits hmask) hk hfits hbound rfl rfl
  show (if (column.validity.select mask).holds k then
      ((column.array.values.select mask).get? k).bind column.array.type.value?
    else none) = _
  rw [Validity.holds_select hcovers hrow,
    Slots.get?_select (hmask.trans hfits.rows_eq.symm) hrow]
  rfl

end LeafColumn

/-!
## The leaf columns of a batch
-/

namespace Columns

theorem covers_of_mem_leavesBelow
    {rows : Nat} {columns : Columns} (hrect : columns.Rectangular rows) {path : ColumnPath}
    {outer : Validity} (houter : outer.Covers rows) {leaf : PlacedLeaf}
    (hleaf : leaf ∈ columns.leavesBelow path outer) :
    leaf.array.rows = rows ∧ leaf.validity.Covers rows := by
  induction columns generalizing path outer with
  | nil => cases hleaf
  | leaf name array rest ih =>
      rcases hrect with ⟨hrows, hvalidity, hrest⟩
      rcases List.mem_cons.mp hleaf with hhere | hlater
      · rw [hhere]
        exact ⟨hrows, Validity.covers_meet houter hvalidity⟩
      · exact ih hrest houter hlater
  | struct name validity own fields rest ihfields ih =>
      rcases hrect with ⟨_, hvalidity, hfields, hrest⟩
      rcases List.mem_append.mp hleaf with hinside | hlater
      · exact ihfields hfields (Validity.covers_meet houter hvalidity) hinside
      · exact ih hrest houter hlater

end Columns

namespace PlacedLeaf

theorem column?_slice (offset length : Nat) (leaf : PlacedLeaf) :
    (leaf.slice offset length).column? =
      leaf.column?.map (LeafColumn.slice offset length) := by
  show leaf.array.type.physicalType?.map _ = (leaf.array.type.physicalType?.map _).map _
  rw [Option.map_map]
  rfl

theorem column?_select (mask : Mask) (leaf : PlacedLeaf) :
    (leaf.select mask).column? = leaf.column?.map (LeafColumn.select mask) := by
  show leaf.array.type.physicalType?.map _ = (leaf.array.type.physicalType?.map _).map _
  rw [Option.map_map]
  rfl

theorem column?_eq_some {leaf : PlacedLeaf} {column : LeafColumn}
    (hcolumn : leaf.column? = some column) :
    leaf.array.type.physicalType? = some column.declared ∧
      column = ⟨leaf.path, column.declared, leaf.array, leaf.validity⟩ := by
  rcases Option.map_eq_some_iff.mp hcolumn with ⟨declared, hdeclared, hmade⟩
  rw [← hmade]
  exact ⟨hdeclared, rfl⟩

end PlacedLeaf

namespace Batch

/-- Every leaf column of a well-formed batch has the batch's rows, its validity included. -/
theorem fits_of_mem_leafColumns
    {batch : Batch} (hformed : batch.WellFormed) {column : LeafColumn}
    (hcolumn : column ∈ batch.leafColumns) :
    column.Fits batch.rows := by
  rcases List.mem_filterMap.mp hcolumn with ⟨leaf, hleaf, hmade⟩
  rcases PlacedLeaf.column?_eq_some hmade with ⟨hdeclared, heq⟩
  have houter : Validity.all.Covers batch.rows := trivial
  rcases Columns.covers_of_mem_leavesBelow hformed houter hleaf with ⟨hrows, hcovers⟩
  rw [heq]
  exact ⟨hrows, hcovers, hdeclared⟩

end Batch
end RowSieve
