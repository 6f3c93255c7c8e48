import RowSieve.Proofs.Batch.Rows
import RowSieve.Proofs.Reader.Standing
import RowSieve.Proofs.Sieve.Binding
import RowSieve.Sieve.Condition
import RowSieve.Sieve.Sift

/-!
# Verdicts

Sifting a batch opens readers, binds the sieve to them, moves their cursors and asks the predicate.
What comes out of all this depends on two things only: which paths the readable leaves have, and
what each row shows at the requested ones.  The mask is made by judging the rows one by one.
-/

namespace RowSieve

/-!
## What a sieve makes of a row
-/

namespace Sieve

/-- The readings at the requested paths, the first one where several have the same path. -/
def chosen (sieve : Sieve) (readings : List (Reading Failure.Kind)) :
    List (Reading Failure.Kind) :=
  sieve.paths.filterMap fun text =>
    readings.find? fun reading => reading.path == ColumnPath.parse sieve.options.delimiter text

/-- What the predicate says of a row that shows the readings. -/
def judges (sieve : Sieve) (readings : List (Reading Failure.Kind)) : Bool :=
  sieve.predicate (sieve.chosen readings)

end Sieve

/-!
## What a bound sieve sees

A sieve that is bound to the readers of a source sees, once the source is moved to a row, what it
would choose from everything that the row shows.
-/

theorem find?_of_forall₂
    {α β γ : Type} {related : α → β → Prop} {xs : List α} {ys : List β}
    {p : α → Bool} {q : β → Bool} {f : α → Option γ} {g : β → γ}
    (hrelated : List.Forall₂ related xs ys)
    (hlike : ∀ x y, related x y → p x = q y ∧ f x = some (g y)) :
    (xs.find? p).bind f = (ys.find? q).map g := by
  induction hrelated with
  | nil => rfl
  | cons hhere _ ih =>
      rcases hlike _ _ hhere with ⟨hfound, hvalue⟩
      rw [List.find?_cons, List.find?_cons, hfound]
      split
      · exact hvalue
      · exact ih

namespace Shelf

variable {shelf : Shelf} {own : List Handle} {columns : List LeafColumn}

theorem views_bound (hholds : shelf.Holds own columns) (sieve : Sieve) (row : Nat) :
    (shelf.seek own row).views
        (sieve.paths.filterMap (Sieve.lookup sieve.options shelf.pathOf own)) =
      sieve.chosen (columns.map fun column => column.viewAt row) := by
  rw [views_eq_filterMap, List.filterMap_filterMap, Sieve.chosen]
  congr 1
  funext text
  rw [List.find?_map]
  apply find?_of_forall₂ (stands_of_holds hholds row)
  rintro handle column ⟨hpath, hreader⟩
  rw [hpath, hreader]
  exact ⟨rfl, rfl⟩

end Shelf

namespace BoundSieve

variable {shelf : Shelf} {own : List Handle} {batch : Batch} {sieve : Sieve}
  {bound : BoundSieve Handle}

theorem views_of_bind
    (hholds : shelf.Holds own batch.leafColumns)
    (hbound : (sieve.bind shelf.pathOf own).result = .ok bound) (row : Nat) :
    (shelf.seek own row).views bound.readers = sieve.chosen (batch.viewsAt row) := by
  rw [Sieve.result_bind] at hbound
  cases hmissing : sieve.missing? (own.map shelf.pathOf) with
  | some text =>
      rw [hmissing] at hbound
      cases hbound
  | none =>
      rw [hmissing] at hbound
      cases hbound
      exact Shelf.views_bound hholds sieve row

/-- The mask of a bound sieve judges each row of the batch by what it shows. -/
theorem mask_evaluate_of_bind
    (hholds : shelf.Holds own batch.leafColumns)
    (hbound : (sieve.bind shelf.pathOf own).result = .ok bound) :
    (bound.evaluate own batch.rows shelf).result.1 = batch.viewRows.map sieve.judges := by
  have hpredicate := (Sieve.bind_eq_ok_iff.mp hbound).2
  simp only [mask_evaluate, views_of_bind hholds hbound, hpredicate]
  rw [Batch.viewRows, List.map_map]
  rfl

theorem shown_evaluate_of_bind
    (hholds : shelf.Holds own batch.leafColumns)
    (hbound : (sieve.bind shelf.pathOf own).result = .ok bound) :
    (bound.evaluate own batch.rows shelf).shown = batch.viewRows.map sieve.chosen := by
  simp only [shown_evaluate, views_of_bind hholds hbound]
  rw [Batch.viewRows, List.map_map]
  rfl

end BoundSieve

namespace Batch

/-!
## What the entry points return
-/

/-- The predicate is shown what the sieve chooses in each row, and every row is judged by it, unless
a requested path has no leaf. -/
theorem matchMask_judges (batch : Batch) (sieve : Sieve) :
    match sieve.missing? batch.leafPaths with
    | some text =>
        (batch.matchMask sieve).result = .error (.unresolvedColumn text) ∧
          (batch.matchMask sieve).shown = []
    | none =>
        (batch.matchMask sieve).result = .ok (batch.viewRows.map sieve.judges) ∧
          (batch.matchMask sieve).shown = batch.viewRows.map sieve.chosen := by
  let shelf := Shelf.ofColumns batch.leafColumns
  have hholds : shelf.Holds (List.range shelf.length) batch.leafColumns :=
    Shelf.holds_ofColumns batch.leafColumns
  have hbind := Sieve.result_bind sieve shelf.pathOf (List.range shelf.length)
  have hshown := Sieve.shown_of_bind sieve shelf.pathOf (List.range shelf.length)
  rw [Shelf.map_pathOf_of_holds hholds, ← leafPaths] at hbind
  simp only [matchMask, Traced.result_bind, Traced.shown_bind]
  rw [hshown]
  cases hmissing : sieve.missing? batch.leafPaths with
  | some text =>
      rw [hmissing] at hbind
      rw [hbind]
      exact ⟨rfl, rfl⟩
  | none =>
      rw [hmissing] at hbind
      have hmask := BoundSieve.mask_evaluate_of_bind hholds hbind
      have hviews := BoundSieve.shown_evaluate_of_bind hholds hbind
      rw [hbind]
      constructor
      · exact congrArg Except.ok hmask
      · rw [← hviews]
        exact List.append_nil _

theorem result_matchMask (batch : Batch) (sieve : Sieve) :
    (batch.matchMask sieve).result =
      match sieve.missing? batch.leafPaths with
      | some text => .error (.unresolvedColumn text)
      | none => .ok (batch.viewRows.map sieve.judges) := by
  have hjudges := matchMask_judges batch sieve
  cases hmissing : sieve.missing? batch.leafPaths <;> rw [hmissing] at hjudges <;> exact hjudges.1

theorem shown_matchMask (batch : Batch) (sieve : Sieve) :
    (batch.matchMask sieve).shown =
      match sieve.missing? batch.leafPaths with
      | some _ => []
      | none => batch.viewRows.map sieve.chosen := by
  have hjudges := matchMask_judges batch sieve
  cases hmissing : sieve.missing? batch.leafPaths <;> rw [hmissing] at hjudges <;> exact hjudges.2

theorem result_matchingRows (batch : Batch) (sieve : Sieve) :
    (batch.matchingRows sieve).result =
      match sieve.missing? batch.leafPaths with
      | some text => .error (.unresolvedColumn text)
      | none => .ok (Mask.rows (batch.viewRows.map sieve.judges)) := by
  simp only [matchingRows, Traced.result_bind, Traced.result_pure, result_matchMask]
  cases sieve.missing? batch.leafPaths <;> rfl

theorem result_sift (batch : Batch) (sieve : Sieve) :
    (batch.sift sieve).result =
      match sieve.missing? batch.leafPaths with
      | some text => .error (.unresolvedColumn text)
      | none => batch.select (batch.viewRows.map sieve.judges) := by
  simp only [sift, Traced.result_bind, Traced.result_pure, result_matchMask]
  cases sieve.missing? batch.leafPaths <;> rfl

theorem results_of_missing
    {batch : Batch} {sieve : Sieve} {text : String}
    (hmissing : sieve.missing? batch.leafPaths = some text) :
    (batch.matchMask sieve).result = .error (.unresolvedColumn text) ∧
      (batch.matchingRows sieve).result = .error (.unresolvedColumn text) ∧
      (batch.sift sieve).result = .error (.unresolvedColumn text) := by
  refine ⟨?_, ?_, ?_⟩
  · rw [result_matchMask, hmissing]
  · rw [result_matchingRows, hmissing]
  · rw [result_sift, hmissing]

theorem results_of_bound
    {batch : Batch} {sieve : Sieve} (hbound : sieve.missing? batch.leafPaths = none) :
    (batch.matchMask sieve).result = .ok (batch.viewRows.map sieve.judges) ∧
      (batch.matchingRows sieve).result = .ok (Mask.rows (batch.viewRows.map sieve.judges)) ∧
      (batch.sift sieve).result = batch.select (batch.viewRows.map sieve.judges) := by
  refine ⟨?_, ?_, ?_⟩
  · rw [result_matchMask, hbound]
  · rw [result_matchingRows, hbound]
  · rw [result_sift, hbound]

theorem exists_sift
    {batch : Batch} (hformed : batch.WellFormed) (hfielded : batch.columns.Fielded)
    {sieve : Sieve} (hbound : sieve.missing? batch.leafPaths = none) :
    ∃ kept, (batch.sift sieve).result = .ok kept ∧ kept.WellFormed ∧ kept.columns.Fielded ∧
      ShowsChosen (Mask.select (batch.viewRows.map sieve.judges)) batch kept := by
  have hmask : (batch.viewRows.map sieve.judges).length = batch.rows := by simp
  rcases exists_select hformed hfielded hmask with ⟨kept, hkept⟩
  refine ⟨kept, ?_, ?_, ?_, ?_⟩
  · rw [(results_of_bound hbound).2.2]
    exact hkept
  · exact wellFormed_select hformed hfielded hmask hkept
  · exact fielded_of_select hfielded hkept
  · exact showsChosen_select hformed hmask hkept

end Batch

/-!
## A sieve to look with

It keeps the cars that have an engine of known capacity.
-/

def Sieve.knownCapacity : Sieve where
  paths := ["engine.capacity"]
  predicate := (Condition.not (.isNull 0)).predicate
  options := .standard

end RowSieve
