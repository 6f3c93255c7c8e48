import RowSieve.Proofs.Sieve.Verdict

/-!
# Sifting piece by piece

A batch that is cut in two can be sifted piece by piece.  In the second piece the cursors start at
row 0 again and the arrays at every depth begin later, but each row shows what it showed in the
whole batch.  So the results of the pieces, put together, are those of the whole.
-/

namespace RowSieve
namespace Batch

variable {batch : Batch} {cut : Nat}

/-- The first `cut` rows. -/
def front (cut : Nat) (batch : Batch) : Batch :=
  batch.slice 0 cut

/-- The rows after the first `cut`. -/
def back (cut : Nat) (batch : Batch) : Batch :=
  batch.slice cut (batch.rows - cut)

/-!
## The rows of the pieces
-/

theorem showsChosen_front (hformed : batch.WellFormed) (cut : Nat) :
    ShowsChosen (window 0 cut) batch (batch.front cut) :=
  showsChosen_slice hformed 0 cut

theorem showsChosen_back (hformed : batch.WellFormed) (cut : Nat) :
    ShowsChosen (window cut (batch.rows - cut)) batch (batch.back cut) :=
  showsChosen_slice hformed cut (batch.rows - cut)

theorem viewRows_front_append_back (hformed : batch.WellFormed) (cut : Nat) :
    (batch.front cut).viewRows ++ (batch.back cut).viewRows = batch.viewRows := by
  have hpieces := window_append_window cut batch.viewRows
  rw [length_viewRows] at hpieces
  rw [(showsChosen_front hformed cut).viewRows, (showsChosen_back hformed cut).viewRows]
  exact hpieces

theorem cellRows_front_append_back (hformed : batch.WellFormed) (cut : Nat) :
    (batch.front cut).cellRows ++ (batch.back cut).cellRows = batch.cellRows := by
  have hpieces := window_append_window cut batch.cellRows
  rw [length_cellRows] at hpieces
  rw [(showsChosen_front hformed cut).cellRows, (showsChosen_back hformed cut).cellRows]
  exact hpieces

theorem rows_front (hcut : cut ≤ batch.rows) : (batch.front cut).rows = cut :=
  Nat.min_eq_left hcut

/-!
## The pieces together

A sieve is bound to each piece as it is to the whole, since the leaves keep their paths.
-/

theorem leafPaths_of_piece
    (hformed : batch.WellFormed) {part : Batch}
    (hpart : part ∈ [batch, batch.front cut, batch.back cut]) :
    part.leafPaths = batch.leafPaths := by
  simp only [List.mem_cons, List.not_mem_nil, or_false] at hpart
  rcases hpart with rfl | rfl | rfl
  · rfl
  · exact (showsChosen_front hformed cut).leafPaths
  · exact (showsChosen_back hformed cut).leafPaths

theorem exists_sift_pieces
    (hformed : batch.WellFormed) (hfielded : batch.columns.Fielded) {sieve : Sieve}
    (hbound : ∀ part ∈ [batch, batch.front cut, batch.back cut],
      sieve.missing? part.leafPaths = none) :
    ∃ kept frontKept backKept,
      (batch.sift sieve).result = .ok kept ∧
      ((batch.front cut).sift sieve).result = .ok frontKept ∧
      ((batch.back cut).sift sieve).result = .ok backKept ∧
      frontKept.columns.schema = kept.columns.schema ∧
      backKept.columns.schema = kept.columns.schema ∧
      kept.cellRows = frontKept.cellRows ++ backKept.cellRows := by
  rcases exists_sift hformed hfielded (hbound batch (by simp)) with ⟨kept, hkept, _, _, hshows⟩
  have hfrontFielded := Columns.fielded_slice 0 cut hfielded
  rcases exists_sift (wellFormed_slice hformed 0 cut) hfrontFielded
      (hbound (batch.front cut) (by simp)) with
    ⟨frontKept, hfrontKept, _, _, hfrontShows⟩
  have hbackFielded := Columns.fielded_slice cut (batch.rows - cut) hfielded
  rcases exists_sift (wellFormed_slice hformed cut (batch.rows - cut)) hbackFielded
      (hbound (batch.back cut) (by simp)) with
    ⟨backKept, hbackKept, _, _, hbackShows⟩
  refine ⟨kept, frontKept, backKept, hkept, hfrontKept, hbackKept, ?_, ?_, ?_⟩
  · rw [hfrontShows.schema, hshows.schema]
    exact (showsChosen_front hformed cut).schema
  · rw [hbackShows.schema, hshows.schema]
    exact (showsChosen_back hformed cut).schema
  · have hviews := viewRows_front_append_back hformed cut
    have hcells := cellRows_front_append_back hformed cut
    have hbits : ((batch.front cut).viewRows.map sieve.judges).length =
        (batch.front cut).cellRows.length := by simp
    rw [hshows.cellRows, ← hviews, ← hcells, List.map_append, Mask.select_append _ _ _ _ hbits]
    rw [hfrontShows.cellRows, hbackShows.cellRows]
    rfl

/-- Sifting the pieces of a batch gives the pieces of what sifting the batch gives. -/
theorem sift_cut
    (batch : Batch) (hformed : batch.WellFormed) (sieve : Sieve)
    {cut : Nat} (hcut : cut ≤ batch.rows) :
    (∃ text,
      sieve.missing? batch.leafPaths = some text ∧
      ∀ part ∈ [batch, batch.front cut, batch.back cut],
        (part.matchMask sieve).result = .error (.unresolvedColumn text) ∧
        (part.matchingRows sieve).result = .error (.unresolvedColumn text) ∧
        (part.sift sieve).result = .error (.unresolvedColumn text)) ∨
    (∃ frontMask backMask frontRows backRows,
      ((batch.front cut).matchMask sieve).result = .ok frontMask ∧
      ((batch.back cut).matchMask sieve).result = .ok backMask ∧
      (batch.matchMask sieve).result = .ok (frontMask ++ backMask) ∧
      ((batch.front cut).matchingRows sieve).result = .ok frontRows ∧
      ((batch.back cut).matchingRows sieve).result = .ok backRows ∧
      (batch.matchingRows sieve).result = .ok (frontRows ++ backRows.map (· + cut)) ∧
      (batch.columns.Fielded →
        ∃ kept frontKept backKept,
          (batch.sift sieve).result = .ok kept ∧
          ((batch.front cut).sift sieve).result = .ok frontKept ∧
          ((batch.back cut).sift sieve).result = .ok backKept ∧
          frontKept.columns.schema = kept.columns.schema ∧
          backKept.columns.schema = kept.columns.schema ∧
          kept.cellRows = frontKept.cellRows ++ backKept.cellRows)) := by
  cases hmissing : sieve.missing? batch.leafPaths with
  | some text =>
      left
      refine ⟨text, rfl, ?_⟩
      intro part hpart
      apply results_of_missing
      rw [leafPaths_of_piece hformed hpart]
      exact hmissing
  | none =>
      have hbound : ∀ part ∈ [batch, batch.front cut, batch.back cut],
          sieve.missing? part.leafPaths = none := by
        intro part hpart
        rw [leafPaths_of_piece hformed hpart]
        exact hmissing
      rcases results_of_bound (hbound batch (by simp)) with ⟨hmask, hrows, _⟩
      rcases results_of_bound (hbound (batch.front cut) (by simp)) with
        ⟨hfrontMask, hfrontRows, _⟩
      rcases results_of_bound (hbound (batch.back cut) (by simp)) with ⟨hbackMask, hbackRows, _⟩
      have hlength : ((batch.front cut).viewRows.map sieve.judges).length = cut := by
        rw [List.length_map, length_viewRows, rows_front hcut]
      rw [← viewRows_front_append_back hformed cut, List.map_append] at hmask hrows
      -- the rows of the back are counted from the cut
      rw [Mask.rows_append, hlength] at hrows
      right
      exact ⟨_, _, _, _, hfrontMask, hbackMask, hmask, hfrontRows, hbackRows, hrows,
        fun hfielded => exists_sift_pieces hformed hfielded hbound⟩

/-- Of four cars, cut in the middle, the first and the last have an engine of known capacity, and
these two are kept. -/
theorem sift_cut_cars :
    cars.WellFormed ∧ 2 ≤ cars.rows ∧
      ∃ kept frontKept backKept : Batch,
        ((cars.front 2).matchMask .knownCapacity).result = .ok [true, false] ∧
        ((cars.back 2).matchMask .knownCapacity).result = .ok [false, true] ∧
        (cars.matchMask .knownCapacity).result = .ok [true, false, false, true] ∧
        (cars.matchingRows .knownCapacity).result = .ok [0, 1 + 2] ∧
        (cars.sift .knownCapacity).result = .ok kept ∧
        ((cars.front 2).sift .knownCapacity).result = .ok frontKept ∧
        ((cars.back 2).sift .knownCapacity).result = .ok backKept ∧
        kept.cellRows = frontKept.cellRows ++ backKept.cellRows ∧
        frontKept.cellRows = [cars.columns.cellsAt 0] ∧
        backKept.cellRows = [cars.columns.cellsAt 3] ∧
        kept.cellRows = [cars.columns.cellsAt 0, cars.columns.cellsAt 3] ∧
        kept.cells[0]? = some ("model", [.slot .utf8 "fiesta", .slot .utf8 "supra"]) := by
  have hformed : cars.WellFormed := by decide
  have hcut : 2 ≤ cars.rows := by decide
  refine ⟨hformed, hcut, ?_⟩
  rcases sift_cut cars hformed .knownCapacity hcut with
    ⟨text, hmissing, _⟩ |
      ⟨frontMask, backMask, frontRows, backRows, hfrontMask, hbackMask, hmask, hfrontRows,
        hbackRows, hrows, hkept⟩
  · cases hmissing
  · have hfrontMaskOk : Except.ok [true, false] = .ok frontMask := Eq.trans (by rfl) hfrontMask
    have hbackMaskOk : Except.ok [false, true] = .ok backMask := Eq.trans (by rfl) hbackMask
    have hfrontRowsOk : Except.ok [0] = .ok frontRows := Eq.trans (by rfl) hfrontRows
    have hbackRowsOk : Except.ok [1] = .ok backRows := Eq.trans (by rfl) hbackRows
    cases hfrontMaskOk
    cases hbackMaskOk
    cases hfrontRowsOk
    cases hbackRowsOk
    rcases hkept (by decide) with
      ⟨kept, frontKept, backKept, hsifted, hfrontKept, hbackKept, hschema, _, hcells⟩
    have hshown : ((cars.front 2).sift .knownCapacity).result.map (fun part =>
        (part.columns.schema, part.cellRows)) =
          .ok (cars.columns.schema, [cars.columns.cellsAt 0]) := by rfl
    have hshownBack : ((cars.back 2).sift .knownCapacity).result.map cellRows =
        .ok [cars.columns.cellsAt 3] := by rfl
    rw [hfrontKept] at hshown
    rw [hbackKept] at hshownBack
    have hwhole : frontKept.columns.schema = cars.columns.schema :=
      congrArg Prod.fst (Except.ok.inj hshown)
    have hfirst : frontKept.cellRows = [cars.columns.cellsAt 0] :=
      congrArg Prod.snd (Except.ok.inj hshown)
    have hlast : backKept.cellRows = [cars.columns.cellsAt 3] := Except.ok.inj hshownBack
    have hboth : kept.cellRows = [cars.columns.cellsAt 0, cars.columns.cellsAt 3] := by
      rw [hcells, hfirst, hlast]
      rfl
    refine ⟨kept, frontKept, backKept, hfrontMask, hbackMask, hmask, hrows, hsifted, hfrontKept,
      hbackKept, hcells, hfirst, hlast, hboth, ?_⟩
    rw [cells_eq_columnwise, ← hschema, hwhole, hboth]
    rfl

end Batch
end RowSieve
