import RowSieve.Proofs.Reader.Visible
import RowSieve.Reader.Shelf

/-!
# What readers answer

A column answers by the requested type first, then by the bounds of its array, then by nullness.
Asked for the type that it declares it cannot fail by the first, so it fails past the end and at
null rows and nowhere else.  No reader fails in any other way than by one of these three.
-/

namespace RowSieve

namespace Slots

variable {α : Type}

theorem get?_eq_none {slots : Slots α} {row : Nat} (hrow : slots.length ≤ row) :
    slots.get? row = none := by
  rw [← getElem?_toList]
  exact List.getElem?_eq_none (by rw [length_toList]; exact hrow)

end Slots

/-!
## Where columns come from
-/

namespace LeafColumn

/-- The column was made of an array by itself, or it is a readable leaf of a batch. -/
inductive Made : LeafColumn → Prop
  | ofColumn {path : ColumnPath} {array : Column} {column : LeafColumn}
      (made : ofColumn path array = .ok column) : Made column
  | ofBatch {batch : Batch} {column : LeafColumn} (leaf : column ∈ batch.leafColumns) : Made column

variable {column : LeafColumn}

theorem declares_of_made (hmade : column.Made) :
    column.array.type.physicalType? = some column.declared := by
  cases hmade with
  | @ofColumn path array _ made =>
      cases array with
      | struct validity rows fields => cases made
      | leaf array =>
          rw [ofColumn] at made
          cases hdeclared : array.type.physicalType? with
          | none => simp [hdeclared] at made
          | some declared =>
              simp only [hdeclared, Except.ok.injEq] at made
              rw [← made]
              exact hdeclared
  | ofBatch leaf =>
      rcases List.mem_filterMap.mp leaf with ⟨placed, _, hcolumn⟩
      rcases PlacedLeaf.column?_eq_some hcolumn with ⟨hdeclared, heq⟩
      rw [heq]
      exact hdeclared

/-!
## Answers of a column
-/

variable {row : Nat} {requested : PhysicalType}

theorem slotAt_outside
    (hreadable : column.declared.readableAs requested = true) (hrow : column.rows ≤ row) :
    column.slotAt row requested = .error (.rowOutOfBounds column.path row column.rows) := by
  rw [slotAt, if_pos hreadable, Slots.get?_eq_none hrow]

theorem slotAt_null
    (hreadable : column.declared.readableAs requested = true)
    (hnull : column.isNullAt row = true) :
    column.slotAt row requested = .error (.nullValue column.path row) := by
  simp only [isNullAt, Bool.and_eq_true, decide_eq_true_eq, Bool.not_eq_true'] at hnull
  rcases Slots.exists_get? hnull.1 with ⟨slot, hslot⟩
  rw [slotAt, if_pos hreadable, hslot, hnull.2]
  rfl

theorem exists_slotAt
    (hreadable : column.declared.readableAs requested = true) (hrow : row < column.rows)
    (hpresent : column.isNullAt row = false) :
    ∃ slot, column.slotAt row requested = .ok slot := by
  have hholds : column.validity.holds row = true := by
    simpa [isNullAt, hrow] using hpresent
  rcases Slots.exists_get? hrow with ⟨slot, hslot⟩
  refine ⟨slot, ?_⟩
  simp only [slotAt, hreadable, hslot, hholds, if_true]

theorem getAt_of_slotAt_error {accessor : Accessor} {failure : Failure}
    (hfails : column.slotAt row accessor.requested = .error failure) :
    column.getAt row accessor = .error failure := by
  rw [getAt, hfails]

theorem exists_getAt_declared
    (hdeclares : column.array.type.physicalType? = some column.declared)
    {slot : column.array.type.Slot}
    (hslot : column.slotAt row column.declared.accessor.requested = .ok slot) :
    ∃ payload, column.getAt row column.declared.accessor = .ok payload := by
  rcases LeafType.value?_isSome hdeclares slot with ⟨value, hvalue, htype⟩
  rcases Value.exists_tag htype with ⟨payload, hpayload⟩
  refine ⟨payload, ?_⟩
  simp only [getAt, hslot, hvalue, hpayload, Option.bind_some, PhysicalType.payload?_tag]

/-- Read as the type that it declares, a column fails past the end of its array and at null rows,
and succeeds everywhere else. -/
theorem read_declared_cases
    (hdeclares : column.array.type.physicalType? = some column.declared) (row : Nat) :
    (column.rows ≤ row ∧ (column.readingAt row).read column.declared =
      .error (.rowOutOfBounds column.path row column.rows)) ∨
    (row < column.rows ∧ column.isNullAt row = true ∧
      (column.readingAt row).read column.declared = .error (.nullValue column.path row)) ∨
    (row < column.rows ∧ column.isNullAt row = false ∧
      ∃ value, (column.readingAt row).read column.declared = .ok value) := by
  have hreadable := PhysicalType.readableAs_requested column.declared
  have hread : (column.readingAt row).read column.declared =
      (column.getAt row column.declared.accessor).map column.declared.tag := rfl
  rw [hread]
  by_cases hrow : row < column.rows
  · right
    cases hnull : column.isNullAt row with
    | true =>
        refine .inl ⟨hrow, rfl, ?_⟩
        rw [getAt_of_slotAt_error (slotAt_null hreadable hnull)]
        rfl
    | false =>
        rcases exists_slotAt hreadable hrow hnull with ⟨slot, hslot⟩
        rcases exists_getAt_declared hdeclares hslot with ⟨payload, hpayload⟩
        refine .inr ⟨hrow, rfl, column.declared.tag payload, ?_⟩
        rw [hpayload]
        rfl
  · left
    rw [Nat.not_lt] at hrow
    refine ⟨hrow, ?_⟩
    rw [getAt_of_slotAt_error (slotAt_outside hreadable hrow)]
    rfl

/-- The row is one of the column's, and the column is not null there. -/
def ShowsAt (column : LeafColumn) (row : Nat) : Prop :=
  row < column.rows ∧ column.isNullAt row = false

/-- The failure tells that the column has no such row, or that it is null there. -/
inductive MissesAt (column : LeafColumn) (row : Nat) : Failure → Prop
  | outside (past : column.rows ≤ row) :
      MissesAt column row (.rowOutOfBounds column.path row column.rows)
  | null (inside : row < column.rows) (isNull : column.isNullAt row = true) :
      MissesAt column row (.nullValue column.path row)

theorem exists_read_declared_iff (hmade : column.Made) :
    (∃ value, (column.readingAt row).read column.declared = .ok value) ↔ column.ShowsAt row := by
  rcases read_declared_cases (declares_of_made hmade) row with
    ⟨hpast, hread⟩ | ⟨_, hnull, hread⟩ | ⟨hinside, hpresent, value, hread⟩
  · have hshows : ¬ column.ShowsAt row := fun hshows => absurd hshows.1 (Nat.not_lt.mpr hpast)
    simp [hread, hshows]
  · have hshows : ¬ column.ShowsAt row := fun hshows => by simp [hshows.2] at hnull
    simp [hread, hshows]
  · exact ⟨fun _ => ⟨hinside, hpresent⟩, fun _ => ⟨value, hread⟩⟩

theorem read_declared_eq_error_iff (hmade : column.Made) {failure : Failure} :
    (column.readingAt row).read column.declared = .error failure ↔ column.MissesAt row failure := by
  rcases read_declared_cases (declares_of_made hmade) row with
    ⟨hpast, hread⟩ | ⟨hinside, hnull, hread⟩ | ⟨hinside, hpresent, value, hread⟩
  · rw [hread, Except.error.injEq]
    constructor
    · intro hfailure
      rw [← hfailure]
      exact .outside hpast
    · intro hmisses
      cases hmisses with
      | outside _ => rfl
      | null hinside _ => exact absurd hinside (Nat.not_lt.mpr hpast)
  · rw [hread, Except.error.injEq]
    constructor
    · intro hfailure
      rw [← hfailure]
      exact .null hinside hnull
    · intro hmisses
      cases hmisses with
      | outside hpast => exact absurd hinside (Nat.not_lt.mpr hpast)
      | null _ _ => rfl
  · rw [hread]
    constructor
    · intro hnone
      cases hnone
    · intro hmisses
      cases hmisses with
      | outside hpast => exact absurd hinside (Nat.not_lt.mpr hpast)
      | null _ hnull =>
          rw [hpresent] at hnull
          cases hnull

end LeafColumn

/-!
## Ways to fail
-/

/-- The failures of readers: another type was asked for, the row is null, or there is no such
row. -/
def Failure.OfReader : Failure → Prop
  | .readerTypeMismatch _ _ _ | .nullValue _ _ | .rowOutOfBounds _ _ _ => True
  | _ => False

theorem LeafColumn.ofReader_of_slotAt
    {column : LeafColumn} {row : Nat} {requested : PhysicalType} {failure : Failure}
    (hfails : column.slotAt row requested = .error failure) :
    failure.OfReader := by
  rw [slotAt] at hfails
  split at hfails
  · cases hslot : column.array.values.get? row with
    | none =>
        rw [hslot] at hfails
        cases hfails
        trivial
    | some slot =>
        rw [hslot] at hfails
        cases hholds : column.validity.holds row with
        | true =>
            rw [hholds] at hfails
            cases hfails
        | false =>
            rw [hholds] at hfails
            cases hfails
            trivial
  · cases hfails
    trivial

namespace Reader

theorem ofReader_of_get
    {reader : Reader} {accessor : Accessor} {failure : Failure}
    (hfails : reader.reading.get accessor = .error failure) :
    failure.OfReader := by
  cases reader with
  | leaf column row =>
      have hget : column.getAt row accessor = .error failure := hfails
      rw [LeafColumn.getAt] at hget
      cases hslot : column.slotAt row accessor.requested with
      | error earlier =>
          rw [hslot] at hget
          cases hget
          exact LeafColumn.ofReader_of_slotAt hslot
      | ok slot =>
          rw [hslot] at hget
          cases hpayload : (column.array.type.value? slot).bind accessor.payload? with
          | none =>
              simp only [hpayload, Except.error.injEq] at hget
              rw [← hget]
              trivial
          | some payload => simp [hpayload] at hget
  | settable path declared current =>
      simp only [reading] at hfails
      cases hpayload : accessor.payload? current with
      | none =>
          simp only [hpayload, Except.error.injEq] at hfails
          rw [← hfails]
          trivial
      | some payload => simp [hpayload] at hfails

theorem ofReader_of_read
    {reader : Reader} {type : PhysicalType} {failure : Failure}
    (hfails : reader.reading.read type = .error failure) :
    failure.OfReader := by
  rw [Reading.read] at hfails
  cases hget : reader.reading.get type.accessor with
  | error earlier =>
      rw [hget] at hfails
      cases hfails
      exact ofReader_of_get hget
  | ok payload =>
      rw [hget] at hfails
      cases hfails

end Reader
end RowSieve
