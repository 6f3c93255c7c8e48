import RowSieve.Proofs.Reader.Lookups
import RowSieve.Proofs.Session.Duplicates
import RowSieve.Proofs.Sieve.Evaluation

/-!
# Columns in sessions

Whatever is done in a session, a column on the shelf stays what it was made as: it decides its
answers in the order in which columns do, and those of a batch, which a source has that was opened
for the batch or duplicated from such a source, are as long as the batch and are read without any
default.  Moves go no further than the cursors.  While the batch is evaluated its readers stand at
rows that it has.
-/

namespace RowSieve

/-!
## Decisions
-/

namespace Session

end Session

/-!
## Copies
-/

namespace Shelf

theorem forall₂_copies {shelf : Shelf} {own : List Handle} {columns : List LeafColumn}
    (hholds : shelf.Holds own columns) :
    List.Forall₂ (fun reader column => ∃ cursor, reader = Reader.leaf column cursor)
      (own.filterMap fun handle => shelf[handle]?) columns := by
  induction own generalizing columns with
  | nil =>
      cases hholds
      exact .nil
  | cons handle others ih =>
      cases hholds with
      | cons hreader hrest =>
          rcases hreader with ⟨cursor, hleaf⟩
          rw [List.filterMap_cons_some hleaf]
          exact .cons ⟨cursor, rfl⟩ (ih hrest)

end Shelf

/-!
## Sources of a batch
-/

namespace Source

/-- The source has a reader for each column of the batch, in their order and wherever the readers
stand.  They are its own, and no other batch is evaluated by moving them. -/
structure ReadsBatch (batch : Batch) (shelf : Shelf) (source : Source) : Prop where
  owns : source.ownColumns = source.handles
  holds : shelf.Holds source.handles batch.leafColumns
  only : ∀ whole, source.batch? = some whole → whole = batch

end Source

namespace Session

/-- The source was opened for the batch, or it is a duplicate of one that stems from the batch,
whatever steps lay between. -/
inductive StemsFrom (batch : Batch) : Session → Nat → Prop
  | opened (session : Session) :
      StemsFrom batch (session.step (.openBatch batch)).result.1 session.sources.length
  | duplicated {session : Session} {source : Nat} (hstems : StemsFrom batch session source) :
      StemsFrom batch (session.step (.duplicate source)).result.1 session.sources.length
  | later {session : Session} {source : Nat} (step : Step)
      (hstems : StemsFrom batch session source) :
      StemsFrom batch (session.step step).result.1 source

variable {session : Session} {batch : Batch} {source : Nat} {found : Source}

theorem readsBatch_added {readers : List Reader} {origin : Origin}
    (hreaders : List.Forall₂ (fun reader column => ∃ cursor, reader = .leaf column cursor)
      readers batch.leafColumns)
    (horigin : origin = .batch batch ∨ origin = .columns) :
    ∃ made, (session.addReaders readers origin).sources[session.sources.length]? = some made ∧
      made.ReadsBatch batch (session.addReaders readers origin).shelf := by
  refine ⟨_, List.getElem?_concat_length, ?_⟩
  have hholds := holds_added session.shelf hreaders
  rw [← handles_nextHandles] at hholds
  rcases horigin with horigin | horigin
  · rw [horigin]
    exact ⟨rfl, hholds, fun whole hwhole => (Option.some.inj hwhole).symm⟩
  · rw [horigin]
    exact ⟨rfl, hholds, fun whole hwhole => nomatch hwhole⟩

theorem readsBatch_opened (session : Session) (batch : Batch) :
    let after := (session.step (.openBatch batch)).result.1
    ∃ made, after.sources[session.sources.length]? = some made ∧
      made.ReadsBatch batch after.shelf :=
  readsBatch_added (Shelf.forall₂_ofColumns batch.leafColumns) (.inl rfl)

theorem readsBatch_duplicated (hsource : session.sources[source]? = some found)
    (hreads : found.ReadsBatch batch session.shelf) :
    let after := (session.step (.duplicate source)).result.1
    ∃ made, after.sources[session.sources.length]? = some made ∧
      made.ReadsBatch batch after.shelf := by
  intro after
  have hafter : after = _ := session_duplicate hsource
  rw [hafter, hreads.owns]
  exact readsBatch_added (Shelf.forall₂_copies hreads.holds) (.inr rfl)

/-- Every step leaves a source of the batch what it is, be it a move, an evaluation or a
duplication. -/
theorem readsBatch_step (hsource : session.sources[source]? = some found)
    (hreads : found.ReadsBatch batch session.shelf) (step : Step) :
    (session.step step).result.1.sources[source]? = some found ∧
      found.ReadsBatch batch (session.step step).result.1.shelf := by
  have hextends := extends_step session step
  refine ⟨getElem?_of_grown hextends.sources hsource, hreads.owns, ?_, hreads.only⟩
  exact hextends.shelf.holds hreads.holds

theorem readsBatch_of_stemsFrom (hstems : StemsFrom batch session source) :
    ∃ found, session.sources[source]? = some found ∧ found.ReadsBatch batch session.shelf := by
  induction hstems with
  | opened session => exact readsBatch_opened session batch
  | duplicated _ ih =>
      rcases ih with ⟨found, hsource, hreads⟩
      exact readsBatch_duplicated hsource hreads
  | later step _ ih =>
      rcases ih with ⟨found, hsource, hreads⟩
      exact ⟨found, readsBatch_step hsource hreads step⟩

end Session

/-!
## Evaluation
-/

namespace Shelf

/-- All handles lead to readers of columns of the batch that stand at rows of the batch, and no
accessor of theirs tells that there is no such row. -/
def StandsInside (batch : Batch) (own : List Handle) (shelf : Shelf) : Prop :=
  ∀ handle ∈ own, ∃ column row, shelf[handle]? = some (.leaf column row) ∧
    column ∈ batch.leafColumns ∧ row < batch.rows ∧
    ∀ accessor failure, (column.readingAt row).get accessor = .error failure →
      failure.kind ≠ .rowOutOfBounds

variable {batch : Batch} {own : List Handle} {before after : Shelf} {row : Nat}

theorem standsInside_of_movedTo (hformed : batch.WellFormed)
    (hholds : before.Holds own batch.leafColumns) (hrow : row < batch.rows)
    (hmoved : MovedTo own row before after) :
    after.StandsInside batch own := by
  intro handle hown
  rcases exists_column_of_mem hholds hown with ⟨column, cursor, hreader, hcolumn⟩
  have hfits := Batch.fits_of_mem_leafColumns hformed hcolumn
  refine ⟨column, row, hmoved.moved handle hown column cursor hreader, hcolumn, hrow, ?_⟩
  intro accessor failure hfails
  rw [← hfits.rows_eq] at hrow
  exact LeafColumn.kind_ne_rowOutOfBounds hrow hfails

end Shelf

theorem BoundSieve.Visits.standsInside {batch : Batch} (hformed : batch.WellFormed)
    {own : List Handle} {before : Shelf} (hholds : before.Holds own batch.leafColumns)
    {bound : BoundSieve Handle} {states : List Shelf} {outcome : Traced (Mask × Shelf)}
    (hvisits : bound.Visits own batch.rows before states outcome) :
    ∀ state ∈ states, state.StandsInside batch own := by
  intro state hstate
  rcases List.mem_iff_getElem?.mp hstate with ⟨row, hrow⟩
  have hbound : row < batch.rows := hvisits.one_each ▸ (List.getElem?_eq_some_iff.mp hrow).1
  exact Shelf.standsInside_of_movedTo hformed hholds hbound (hvisits.in_order row state hrow)

namespace Session

/-- Readers of a batch stay intact.  However a well-formed batch is cut it is well-formed.  When it
is flattened, bits stand against bits wherever validities are combined.  Its columns have its rows,
their validities included, they declare the types of their arrays, and they are read without any
default at every row.  In any session, the sources that stem from the batch have readers of these
columns after every step; and while such a source is evaluated by any bound sieve, its readers stand
at rows of the batch whenever the predicate is asked, and tell of no row that there is none. -/
theorem readers_stay_intact {batch : Batch} (hformed : batch.WellFormed) :
    (∀ offset length, (batch.slice offset length).WellFormed) ∧
    batch.columns.leavesBelow? [] .all = some batch.columns.leaves ∧
    (∀ column ∈ batch.leafColumns,
      column.Fits batch.rows ∧ ∀ row, column.ShowsStrictly row) ∧
    ∀ (session : Session) (source : Nat), StemsFrom batch session source →
      ∃ found, session.sources[source]? = some found ∧ found.ReadsBatch batch session.shelf ∧
        ∀ bound : BoundSieve Handle, ∃ states,
          bound.Visits found.handles batch.rows session.shelf states
            (bound.evaluate found.handles batch.rows session.shelf) ∧
          ∀ state ∈ states, state.StandsInside batch found.handles := by
  refine ⟨?_, ?_, ?_, ?_⟩
  · intro offset length
    exact Columns.rectangular_slice hformed offset length
  · exact Columns.leavesBelow?_eq_some hformed [] trivial
  · intro column hcolumn
    have hfits := Batch.fits_of_mem_leafColumns hformed hcolumn
    exact ⟨hfits, LeafColumn.showsStrictly hfits⟩
  · intro session source hstems
    rcases readsBatch_of_stemsFrom hstems with ⟨found, hsource, hreads⟩
    refine ⟨found, hsource, hreads, ?_⟩
    intro bound
    rcases BoundSieve.exists_visits bound found.handles batch.rows session.shelf with
      ⟨states, hvisits⟩
    exact ⟨states, hvisits, hvisits.standsInside hformed hreads.holds⟩

/-- The second and the third car are cut out and opened.  Their readers are moved beyond the end and
duplicated, and the capacities among the duplicates, which stand there still, tell so; the car whose
engine is not known tells that. -/
theorem readers_stay_intact_cars :
    let piece := Batch.cars.slice 1 2
    let path : ColumnPath := ["engine", "capacity"]
    let session := empty.run [.openBatch piece, .seek 0 9 none, .duplicate 0, .seek 0 1 none]
    piece.WellFormed ∧ StemsFrom piece session 1 ∧
    session.sources[1]?.map Source.handles = some [4, 5, 6, 7] ∧
    (∃ found, session.sources[1]? = some found ∧ found.ReadsBatch piece session.shelf ∧
      ∀ bound : BoundSieve Handle, ∃ states,
        bound.Visits found.handles piece.rows session.shelf states
          (bound.evaluate found.handles piece.rows session.shelf) ∧
        ∀ state ∈ states, state.StandsInside piece found.handles) ∧
    ∃ column : LeafColumn, session.shelf[5]? = some (.leaf column 9) ∧
      column.rows = 2 ∧ column.validity = .ofBits [false, false] ∧
      column.isNullAt? 9 = some false ∧
      column.getAt? 9 .integer = some (.error (.rowOutOfBounds path 9 2)) ∧
      column.getAt? 1 .integer = some (.error (.nullValue path 1)) := by
  intro piece path session
  have hformed : piece.WellFormed := by decide
  have hstems : StemsFrom piece session 1 :=
    .later (.seek 0 1 none) (.duplicated (.later (.seek 0 9 none) (.opened empty)))
  rcases readers_stay_intact hformed with ⟨_, _, hcolumns, hsessions⟩
  have hcapacity : piece.leafColumns[1] ∈ piece.leafColumns := List.getElem_mem _
  rcases hcolumns _ hcapacity with ⟨hfits, hstrictly⟩
  have hhandles : session.sources[1]?.map Source.handles = some [4, 5, 6, 7] := by
    decide +kernel
  have hreader : session.shelf[5]? = some (.leaf piece.leafColumns[1] 9) := rfl
  exact ⟨hformed, hstems, hhandles, hsessions session 1 hstems, piece.leafColumns[1], hreader,
    hfits.rows_eq, rfl, (hstrictly 9).isNull, (hstrictly 9).get .integer,
    (hstrictly 1).get .integer⟩

end Session
end RowSieve
