import Mathlib.Data.List.Forall2
import RowSieve.Proofs.Reader.Visible
import RowSieve.Reader.Shelf

/-!
# Where readers stand

A source holds the handles of readers of its columns, and readers of other sources stand on the same
shelf.  Moving the source puts its own readers at a row and leaves the others where they stand.
What the source's readers show then does not depend on where they stood before.
-/

namespace RowSieve

/-!
## Moves
-/

namespace Shelf

/-- The leaf columns behind the handles have come to stand at `row`, and all else is as before. -/
structure MovedTo (own : List Handle) (row : Nat) (before after : Shelf) : Prop where
  length_eq : after.length = before.length
  moved : ∀ handle ∈ own, ∀ column cursor, before[handle]? = some (.leaf column cursor) →
    after[handle]? = some (.leaf column row)
  others : ∀ handle, handle ∉ own → after[handle]? = before[handle]?

theorem movedTo_seek (own : List Handle) (row : Nat) (shelf : Shelf) :
    MovedTo own row shelf (shelf.seek own row) where
  length_eq := length_seek own row shelf
  moved := by
    intro handle hown column cursor hreader
    rw [getElem?_seek, hreader, Option.map_some, if_pos hown]
    rfl
  others := by
    intro handle hother
    rw [getElem?_seek]
    simp [hother]

/-!
## Readers of columns
-/

/-- The handles are those of readers of the columns, one by one, wherever these stand. -/
def Holds (own : List Handle) (columns : List LeafColumn) (shelf : Shelf) : Prop :=
  List.Forall₂ (fun handle column => ∃ cursor, shelf[handle]? = some (.leaf column cursor))
    own columns

variable {shelf : Shelf} {own : List Handle} {columns : List LeafColumn}

theorem holds_ofColumns (columns : List LeafColumn) :
    (ofColumns columns).Holds (List.range (ofColumns columns).length) columns := by
  refine List.forall₂_iff_get.mpr ⟨by simp [ofColumns], ?_⟩
  intro place _ hcolumn
  exact ⟨0, by simp [ofColumns]⟩

theorem forall₂_ofColumns (columns : List LeafColumn) :
    List.Forall₂ (fun reader column => ∃ cursor, reader = Reader.leaf column cursor)
      (ofColumns columns) columns := by
  rw [ofColumns, List.forall₂_map_left_iff]
  exact List.forall₂_same.mpr fun column _ => ⟨0, rfl⟩

theorem exists_column_of_mem (hholds : shelf.Holds own columns) {handle : Handle}
    (hown : handle ∈ own) :
    ∃ column cursor, shelf[handle]? = some (.leaf column cursor) ∧ column ∈ columns := by
  rcases List.forall₂_iff_get.mp hholds with ⟨hlength, hreaders⟩
  rcases List.mem_iff_get.mp hown with ⟨place, hplace⟩
  have hcolumn : place.val < columns.length := hlength ▸ place.isLt
  rcases hreaders place place.isLt hcolumn with ⟨cursor, hreader⟩
  rw [hplace] at hreader
  exact ⟨_, cursor, hreader, List.get_mem _ _⟩

theorem stands_of_holds (hholds : shelf.Holds own columns) (row : Nat) :
    List.Forall₂
      (fun handle column => shelf.pathOf handle = column.path ∧
        (shelf.seek own row)[handle]? = some (.leaf column row))
      own columns := by
  rcases List.forall₂_iff_get.mp hholds with ⟨hlength, hreaders⟩
  refine List.forall₂_iff_get.mpr ⟨hlength, ?_⟩
  intro place hhandle hcolumn
  rcases hreaders place hhandle hcolumn with ⟨cursor, hreader⟩
  constructor
  · rw [pathOf, hreader]
    rfl
  · exact (movedTo_seek own row shelf).moved _ (List.get_mem _ _) _ cursor hreader

theorem map_pathOf_of_holds (hholds : shelf.Holds own columns) :
    own.map shelf.pathOf = columns.map LeafColumn.path := by
  have hpaths : List.Forall₂ (· = ·) (own.map shelf.pathOf) (columns.map LeafColumn.path) := by
    rw [List.forall₂_map_left_iff, List.forall₂_map_right_iff]
    exact (stands_of_holds hholds 0).imp fun _ _ hstands => hstands.1
  rwa [List.forall₂_eq_eq_eq] at hpaths

theorem exists_column_of_holds
    {other : Shelf} (hholds : shelf.Holds own columns) (hother : other.Holds own columns)
    {handle : Handle} (hown : handle ∈ own) :
    ∃ column cursor otherCursor, shelf[handle]? = some (.leaf column cursor) ∧
      other[handle]? = some (.leaf column otherCursor) := by
  rcases List.forall₂_iff_get.mp hholds with ⟨hlength, hreaders⟩
  rcases List.forall₂_iff_get.mp hother with ⟨_, hotherReaders⟩
  rcases List.mem_iff_get.mp hown with ⟨place, hplace⟩
  have hcolumn : place.val < columns.length := hlength ▸ place.isLt
  rcases hreaders place place.isLt hcolumn with ⟨cursor, hreader⟩
  rcases hotherReaders place place.isLt hcolumn with ⟨otherCursor, hotherReader⟩
  rw [hplace] at hreader hotherReader
  exact ⟨_, cursor, otherCursor, hreader, hotherReader⟩

theorem views_eq_filterMap (shelf : Shelf) (handles : List Handle) :
    shelf.views handles =
      handles.filterMap fun handle =>
        shelf[handle]?.map fun reader => reader.reading.mapFailure Failure.kind := by
  rw [views, readings, List.map_filterMap]
  congr 1
  funext handle
  rw [Option.map_map]
  rfl

/-- Readers of a source show the same once the source is moved, wherever they stood before. -/
theorem views_seek_of_holds
    {other : Shelf} (hholds : shelf.Holds own columns) (hother : other.Holds own columns)
    {handles : List Handle} (hown : ∀ handle ∈ handles, handle ∈ own) (row : Nat) :
    (other.seek own row).views handles = (shelf.seek own row).views handles := by
  rw [views_eq_filterMap, views_eq_filterMap]
  apply List.filterMap_congr
  intro handle hhandle
  have hmem := hown handle hhandle
  rcases exists_column_of_holds hholds hother hmem with
    ⟨column, cursor, otherCursor, hreader, hotherReader⟩
  rw [(movedTo_seek own row shelf).moved handle hmem column cursor hreader,
    (movedTo_seek own row other).moved handle hmem column otherCursor hotherReader]

end Shelf
end RowSieve
