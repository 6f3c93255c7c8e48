import RowSieve.Proofs.Batch.Thinning
import RowSieve.Proofs.Reader.Accounting
import RowSieve.Proofs.Sieve.Verdict

/-!
# The log of a scan

Whichever way a batch is sifted, the log first accounts for the leaves that cannot be read, then
tells how binding went and, if it went well, how many rows were judged and how many matched.
-/

namespace RowSieve

/-!
## What each stage logs

Binding logs one line and judging rows none; an evaluation logs one that counts the rows.
-/

namespace Sieve

variable {ρ : Type}

theorem events_bind (sieve : Sieve) (pathOf : ρ → ColumnPath) (available : List ρ) :
    (sieve.bind pathOf available).events =
      match sieve.missing? (available.map pathOf) with
      | some text => [.columnUnresolved text available.length]
      | none => [.sieveBound sieve.paths.length available.length] := by
  have hresult := result_bind sieve pathOf available
  cases hmissing : sieve.missing? (available.map pathOf) with
  | some text =>
      rw [hmissing] at hresult
      rcases bind_eq_error_iff.mp hresult with ⟨missing, hresolved, hfailure⟩
      cases hfailure
      rw [bind, hresolved]
      rfl
  | none =>
      rw [hmissing] at hresult
      have hresolved := (bind_eq_ok_iff.mp hresult).1
      rw [bind, hresolved, (resolve_eq_ok_iff.mp hresolved).length_eq]
      rfl

end Sieve

namespace BoundSieve

variable (bound : BoundSieve Handle) (own : List Handle) (shelf : Shelf)

theorem events_verdicts (rows : List Nat) : (bound.verdicts own rows shelf).events = [] := by
  induction rows generalizing shelf with
  | nil => rfl
  | cons row rows ih =>
      simp [verdicts, isMatch, Traced.applied, ih]

theorem events_evaluate (rows : Nat) :
    (bound.evaluate own rows shelf).events =
      [.batchEvaluated rows (bound.evaluate own rows shelf).result.1.marked] := by
  have hmask := mask_verdicts bound own (List.range rows) shelf
  simp [evaluate, events_verdicts, Traced.log, hmask]

end BoundSieve

namespace Batch

/-!
## What sifting logs
-/

theorem events_matchMask (batch : Batch) (sieve : Sieve) :
    (batch.matchMask sieve).events =
      batch.skippedEvents ++
        match sieve.missing? batch.leafPaths with
        | some text => [.columnUnresolved text batch.leafColumns.length]
        | none =>
            [.sieveBound sieve.paths.length batch.leafColumns.length,
              .batchEvaluated batch.rows (Mask.marked (batch.viewRows.map sieve.judges))] := by
  let shelf := Shelf.ofColumns batch.leafColumns
  have hholds : shelf.Holds (List.range shelf.length) batch.leafColumns :=
    Shelf.holds_ofColumns batch.leafColumns
  have hlength : (List.range shelf.length).length = batch.leafColumns.length :=
    hholds.length_eq
  have hbind := Sieve.result_bind sieve shelf.pathOf (List.range shelf.length)
  have hevents := Sieve.events_bind sieve shelf.pathOf (List.range shelf.length)
  rw [Shelf.map_pathOf_of_holds hholds, ← leafPaths] at hbind hevents
  rw [hlength] at hevents
  simp only [matchMask, Traced.events_bind]
  rw [hevents]
  cases hmissing : sieve.missing? batch.leafPaths with
  | some text =>
      rw [hmissing] at hbind
      rw [hbind]
      rfl
  | none =>
      rw [hmissing] at hbind
      have hmask := BoundSieve.mask_evaluate_of_bind hholds hbind
      rw [hbind]
      simp only [Traced.events_bind, BoundSieve.events_evaluate]
      rw [hmask]
      rfl

/-- The doors of a car cannot be read, and two cars have an engine of known capacity. -/
example :
    (cars.matchMask .knownCapacity).events.map Event.line =
      [("column_skipped", [("path", .text "doors"), ("data_type", .text "Int8")]),
        ("filter_bound", [("columns", .count 1), ("available", .count 4)]),
        ("batch_evaluated", [("rows", .count 4), ("matched", .count 2)])] := by
  rfl

theorem events_of_mask (batch : Batch) (sieve : Sieve) :
    (batch.matchingRows sieve).events = (batch.matchMask sieve).events ∧
      (batch.sift sieve).events = (batch.matchMask sieve).events :=
  ⟨List.append_nil _, List.append_nil _⟩

/-- The log accounts for every leaf and every scan.  First come the lines for the leaves without a
reader, then one line on binding, which names the path that is reported if there is one, and after
it one line on the rows, if they were judged at all. -/
theorem log_accounts_for_leaves_and_scan (batch : Batch) (sieve : Sieve) :
    ∃ exposed skipped skippedLines,
      batch.Accounts exposed skipped (Shelf.ofColumns batch.leafColumns) skippedLines ∧
      (batch.matchingRows sieve).events = (batch.matchMask sieve).events ∧
      (batch.sift sieve).events = (batch.matchMask sieve).events ∧
      ((∃ text,
        sieve.missing? batch.leafPaths = some text ∧
        (batch.matchMask sieve).result = .error (.unresolvedColumn text) ∧
        (batch.matchingRows sieve).result = .error (.unresolvedColumn text) ∧
        (batch.sift sieve).result = .error (.unresolvedColumn text) ∧
        (batch.matchMask sieve).events.map Event.line = skippedLines ++
          [("column_unresolved",
            [("path", .text text), ("available", .count exposed.length)])]) ∨
      (∃ mask rows,
        sieve.missing? batch.leafPaths = none ∧
        (batch.matchMask sieve).result = .ok mask ∧
        (batch.matchingRows sieve).result = .ok rows ∧
        ((∃ kept, (batch.sift sieve).result = .ok kept) ∨
          ∃ failure, (batch.sift sieve).result = .error failure ∧ failure.kind = .arrow) ∧
        mask.length = batch.rows ∧
        mask.count true = rows.length ∧
        (batch.matchMask sieve).events.map Event.line = skippedLines ++
          [("filter_bound",
            [("columns", .count sieve.paths.length), ("available", .count exposed.length)]),
          ("batch_evaluated",
            [("rows", .count batch.rows), ("matched", .count rows.length)])])) := by
  refine ⟨batch.columns.readableAddresses, batch.columns.skippedAddresses,
    batch.skippedEvents.map Event.line, accounts batch, (events_of_mask batch sieve).1,
    (events_of_mask batch sieve).2, ?_⟩
  rw [events_matchMask, List.map_append, length_leafColumns]
  cases hmissing : sieve.missing? batch.leafPaths with
  | some text =>
      rcases results_of_missing hmissing with ⟨hmatchMask, hmatchingRows, hsift⟩
      exact .inl ⟨text, rfl, hmatchMask, hmatchingRows, hsift, rfl⟩
  | none =>
      rcases results_of_bound hmissing with ⟨hmatchMask, hmatchingRows, hsift⟩
      refine .inr ⟨batch.viewRows.map sieve.judges, Mask.rows (batch.viewRows.map sieve.judges),
        rfl, hmatchMask, hmatchingRows, ?_, by simp, (Mask.length_rows _).symm, ?_⟩
      · rw [hsift]
        cases hkept : batch.select (batch.viewRows.map sieve.judges) with
        | ok kept => exact .inl ⟨kept, rfl⟩
        | error failure => exact .inr ⟨failure, rfl, kind_of_select_error hkept⟩
      · rw [Mask.length_rows]
        rfl

end Batch
end RowSieve
