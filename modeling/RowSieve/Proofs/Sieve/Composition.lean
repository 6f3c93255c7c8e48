import RowSieve.Proofs.Sieve.Verdict

/-!
# Sifting what was sifted

A batch that was sifted can be sifted again.  The second time the predicate sees in each row that is
left what it would have seen there the first time, so two siftings keep the rows that one sifting by
both predicates keeps.
-/

namespace RowSieve

/-- Both predicates say that the row matches. -/
def Predicate.both (first second : Predicate) : Predicate :=
  fun readings => first readings && second readings

namespace Batch

variable {batch kept again : Batch}

/-!
## Rows that are left after two choices
-/

theorem cellRows_of_chosen_twice
    {first second : List (Reading Failure.Kind) → Bool}
    (hkept : ShowsChosen (Mask.select (batch.viewRows.map first)) batch kept)
    (hagain : ShowsChosen (Mask.select (kept.viewRows.map second)) kept again) :
    again.cellRows =
      Mask.select (batch.viewRows.map fun row => first row && second row) batch.cellRows := by
  rw [hagain.cellRows, hkept.cellRows, hkept.viewRows, ← Mask.select_map, Mask.select_select,
    List.zipWith_map, List.zipWith_self]

theorem showsSame_of_chosen_twice
    {both : Batch} {first second : List (Reading Failure.Kind) → Bool}
    (hkept : ShowsChosen (Mask.select (batch.viewRows.map first)) batch kept)
    (hagain : ShowsChosen (Mask.select (kept.viewRows.map second)) kept again)
    (hboth : ShowsChosen
      (Mask.select (batch.viewRows.map fun row => first row && second row)) batch both) :
    again.ShowsSame both := by
  apply showsSame_of_cellRows
  · rw [hagain.schema, hkept.schema, hboth.schema]
  · rw [cellRows_of_chosen_twice hkept hagain, hboth.cellRows]

theorem showsSame_of_chosen_again
    {first : List (Reading Failure.Kind) → Bool}
    (hkept : ShowsChosen (Mask.select (batch.viewRows.map first)) batch kept)
    (hagain : ShowsChosen (Mask.select (kept.viewRows.map first)) kept again) :
    again.ShowsSame kept := by
  apply showsSame_of_cellRows hagain.schema
  rw [cellRows_of_chosen_twice hkept hagain, hkept.cellRows]
  simp only [Bool.and_self]

/-!
## Composition
-/

/-- Sifting by one predicate and then by another shows what sifting once by both shows.  The
requested paths are found every time or never, and sifting again by the same predicate changes
nothing. -/
theorem sift_sift
    (batch : Batch) (hformed : batch.WellFormed) (hfielded : batch.columns.Fielded)
    (paths : List String) (options : Options) (first second : Predicate) :
    (∃ text,
      (Sieve.mk paths first options).missing? batch.leafPaths = some text ∧
      (batch.sift ⟨paths, first, options⟩).result = .error (.unresolvedColumn text) ∧
      (batch.sift ⟨paths, first.both second, options⟩).result =
        .error (.unresolvedColumn text)) ∨
    (∃ kept again both,
      (batch.sift ⟨paths, first, options⟩).result = .ok kept ∧
      (kept.sift ⟨paths, second, options⟩).result = .ok again ∧
      (batch.sift ⟨paths, first.both second, options⟩).result = .ok both ∧
      again.ShowsSame both ∧
      ∃ same,
        (kept.sift ⟨paths, first, options⟩).result = .ok same ∧ same.ShowsSame kept) := by
  cases hmissing : (Sieve.mk paths first options).missing? batch.leafPaths with
  | some text =>
      have hboth : (Sieve.mk paths (first.both second) options).missing? batch.leafPaths =
          some text := hmissing
      left
      exact ⟨text, rfl, (results_of_missing hmissing).2.2, (results_of_missing hboth).2.2⟩
  | none =>
      have hboth : (Sieve.mk paths (first.both second) options).missing? batch.leafPaths =
          none := hmissing
      rcases exists_sift hformed hfielded hmissing with
        ⟨kept, hkept, hkeptFormed, hkeptFielded, hkeptShows⟩
      -- the paths of the leaves are as before, so the second sieve is bound like the first
      have hfirst : (Sieve.mk paths first options).missing? kept.leafPaths = none := by
        rw [hkeptShows.leafPaths]
        exact hmissing
      have hsecond : (Sieve.mk paths second options).missing? kept.leafPaths = none := hfirst
      rcases exists_sift hkeptFormed hkeptFielded hsecond with ⟨again, hagain, _, _, hagainShows⟩
      rcases exists_sift hkeptFormed hkeptFielded hfirst with ⟨same, hsame, _, _, hsameShows⟩
      rcases exists_sift hformed hfielded hboth with ⟨both, hsifted, _, _, hbothShows⟩
      right
      refine ⟨kept, again, both, hkept, hagain, hsifted, ?_, same, hsame, ?_⟩
      · exact showsSame_of_chosen_twice hkeptShows hagainShows hbothShows
      · exact showsSame_of_chosen_again hkeptShows hsameShows

/-- Of the cars whose capacity is known, one has a large engine. -/
theorem sift_sift_cars :
    cars.WellFormed ∧ cars.columns.Fielded ∧
      ∃ kept again both,
        (cars.sift ⟨["engine.capacity"], (Condition.not (.isNull 0)).predicate,
          .standard⟩).result = .ok kept ∧
        (kept.sift ⟨["engine.capacity"], (Condition.follows 0 (.int32 1500)).predicate,
          .standard⟩).result = .ok again ∧
        (cars.sift ⟨["engine.capacity"], Predicate.both (Condition.not (.isNull 0)).predicate
          (Condition.follows 0 (.int32 1500)).predicate, .standard⟩).result = .ok both ∧
        again.ShowsSame both ∧ again.rows = 1 := by
  have hformed : cars.WellFormed := by decide
  have hfielded : cars.columns.Fielded := by decide
  refine ⟨hformed, hfielded, ?_⟩
  rcases sift_sift cars hformed hfielded ["engine.capacity"] .standard
      (Condition.not (.isNull 0)).predicate (Condition.follows 0 (.int32 1500)).predicate with
    ⟨text, hmissing, _⟩ | ⟨kept, again, both, hkept, hagain, hboth, hsame, _⟩
  · cases hmissing
  · have hrows : (cars.sift ⟨["engine.capacity"],
        Predicate.both (Condition.not (.isNull 0)).predicate
          (Condition.follows 0 (.int32 1500)).predicate,
        .standard⟩).result.map Batch.rows = .ok 1 := by rfl
    rw [hboth] at hrows
    refine ⟨kept, again, both, hkept, hagain, hboth, hsame, ?_⟩
    rw [hsame.rows]
    exact Except.ok.inj hrows

end Batch
end RowSieve
