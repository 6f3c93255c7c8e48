import RowSieve.Proofs.Sieve.Verdict

/-!
# The three ways to ask

A batch is sifted for a mask, for the matching rows, or for the batch of those rows.  Each way opens
readers and binds the sieve anew, yet all three describe one set of rows.  Only the third can fail
once the sieve is bound, and only over a struct that comes out too short.
-/

namespace RowSieve
namespace Batch

variable {batch kept : Batch} {mask : Mask}

/-!
## Kept rows
-/

theorem cellsAt_of_select
    (hformed : batch.WellFormed) (hmask : mask.length = batch.rows)
    (hkept : batch.select mask = .ok kept) {k row : Nat} (hrow : mask.rows[k]? = some row) :
    kept.columns.cellsAt k = batch.columns.cellsAt row := by
  have hshows := (showsChosen_select hformed hmask hkept).cellRows
  have hlength : mask.length = batch.cellRows.length := by simp [hmask]
  have hkeptRow : k < kept.rows := by
    rw [rows_of_select hformed hmask hkept]
    exact Mask.lt_marked_of_getElem?_rows hrow
  have hbatchRow : row < batch.rows := by
    rw [← hmask]
    exact Mask.lt_length_of_getElem?_rows hrow
  have hcells : kept.cellRows[k]? = batch.cellRows[row]? := by
    rw [hshows, Mask.getElem?_select k mask batch.cellRows hlength, hrow]
    rfl
  rw [getElem?_cellRows hkeptRow, getElem?_cellRows hbatchRow] at hcells
  exact Option.some.inj hcells

/-!
## Agreement
-/

/-- Either the sieve finds no leaf at a path, and all three ways report it, or the mask has a bit
for every row, the matching rows are the marked ones in increasing order, and the batch of them
fails to be made just when some but not all rows match and a top column is hollow.  If every struct
has a field it is made, with the columns of the batch and with the matching rows. -/
theorem entry_points_agree
    (batch : Batch) (hformed : batch.WellFormed) (sieve : Sieve) :
    (∃ text,
      sieve.missing? batch.leafPaths = some text ∧
      (batch.matchMask sieve).result = .error (.unresolvedColumn text) ∧
      (batch.matchingRows sieve).result = .error (.unresolvedColumn text) ∧
      (batch.sift sieve).result = .error (.unresolvedColumn text)) ∨
    (∃ mask rows,
      (batch.matchMask sieve).result = .ok mask ∧
      (batch.matchingRows sieve).result = .ok rows ∧
      mask.length = batch.rows ∧
      (∀ row, row < batch.rows → mask[row]? = some (sieve.judges (batch.viewsAt row))) ∧
      rows.Pairwise (· < ·) ∧
      (∀ row, row ∈ rows ↔ mask[row]? = some true) ∧
      ((∃ failure, (batch.sift sieve).result = .error failure) ↔
        true ∈ mask ∧ false ∈ mask ∧ ∃ column ∈ batch.columns.toList, column.2.Hollow) ∧
      (∀ failure, (batch.sift sieve).result = .error failure → failure.kind = .arrow) ∧
      (batch.columns.Fielded →
        ∃ kept,
          (batch.sift sieve).result = .ok kept ∧
          kept.columns.schema = batch.columns.schema ∧
          kept.rows = rows.length ∧
          ∀ k row, rows[k]? = some row →
            kept.columns.cellsAt k = batch.columns.cellsAt row)) := by
  cases hmissing : sieve.missing? batch.leafPaths with
  | some text =>
      left
      exact ⟨text, rfl, results_of_missing hmissing⟩
  | none =>
      have hmask : (batch.viewRows.map sieve.judges).length = batch.rows := by simp
      rcases results_of_bound hmissing with ⟨hmatchMask, hmatchingRows, hsift⟩
      right
      refine ⟨batch.viewRows.map sieve.judges, Mask.rows (batch.viewRows.map sieve.judges),
        hmatchMask, hmatchingRows, hmask, ?_, Mask.pairwise_rows _, ?_, ?_, ?_, ?_⟩
      · intro row hrow
        simp [viewRows, hrow]
      · intro row
        exact Mask.mem_rows
      · rw [hsift]
        exact select_fails_iff hformed hmask
      · intro failure herror
        rw [hsift] at herror
        exact kind_of_select_error herror
      · intro hfielded
        rcases exists_select hformed hfielded hmask with ⟨kept, hkept⟩
        refine ⟨kept, ?_, ?_, ?_, ?_⟩
        · rw [hsift]
          exact hkept
        · exact (showsChosen_select hformed hmask hkept).schema
        · rw [rows_of_select hformed hmask hkept, Mask.length_rows]
        · intro k row hrow
          exact cellsAt_of_select hformed hmask hkept hrow

/-- A struct without fields comes out empty, so a batch with one cannot be thinned to some rows. -/
def trailers : Batch where
  columns :=
    .leaf "number" ⟨.int32, .listed [1, 2], .all⟩ <|
    .struct "load" .all 2 .nil .nil
  rows := 2

/-- Two cars have an engine of known capacity; one of the trailers has the number 1. -/
theorem entry_points_agree_vehicles :
    (cars.WellFormed ∧
      ∃ kept,
        (cars.matchMask .knownCapacity).result = .ok [true, false, false, true] ∧
        (cars.matchingRows .knownCapacity).result = .ok [0, 3] ∧
        (cars.sift .knownCapacity).result = .ok kept ∧
        kept.rows = 2 ∧
        kept.columns.cellsAt 1 = cars.columns.cellsAt 3) ∧
    (trailers.WellFormed ∧
      ∃ failure,
        (trailers.sift ⟨["number"], (Condition.equals 0 (.int32 1)).predicate,
          .standard⟩).result = .error failure ∧
        failure.kind = .arrow) := by
  have hcars : cars.WellFormed := by decide
  have htrailers : trailers.WellFormed := by decide
  refine ⟨⟨hcars, ?_⟩, htrailers, ?_⟩
  · rcases entry_points_agree cars hcars .knownCapacity with
      ⟨text, hmissing, _⟩ | ⟨mask, rows, hmask, hrows, _, _, _, _, _, _, hkept⟩
    · cases hmissing
    · have hmaskOk : Except.ok [true, false, false, true] = .ok mask :=
        Eq.trans (by rfl) hmask
      have hrowsOk : Except.ok [0, 3] = .ok rows := Eq.trans (by rfl) hrows
      cases hmaskOk
      cases hrowsOk
      rcases hkept (by decide) with ⟨kept, hsifted, _, hcount, hcells⟩
      exact ⟨kept, hmask, hrows, hsifted, hcount, hcells 1 3 rfl⟩
  · rcases entry_points_agree trailers htrailers
        ⟨["number"], (Condition.equals 0 (.int32 1)).predicate, .standard⟩ with
      ⟨text, hmissing, _⟩ | ⟨mask, rows, hmask, _, _, _, _, _, hfails, hkind, _⟩
    · cases hmissing
    · have hmaskOk : Except.ok [true, false] = .ok mask := Eq.trans (by rfl) hmask
      cases hmaskOk
      have hhollow : ∃ column ∈ trailers.columns.toList, column.2.Hollow :=
        ⟨("load", .struct .all 2 .nil), by simp [trailers, Columns.toList], trivial⟩
      rcases hfails.mpr ⟨by decide, by decide, hhollow⟩ with ⟨failure, hfailure⟩
      exact ⟨failure, hfailure, hkind failure hfailure⟩

end Batch
end RowSieve
