import RowSieve.Reader.Shelf

/-!
# Sifting batches

A sieve is bound to readers, its predicate is applied row by row to what they show, and the rows that
match are kept.
-/

namespace RowSieve

/-!
## Binding

Each requested path is looked up among the readers at hand, in their order, and the first reader at
that path is taken.  Binding succeeds only if every path has a reader; otherwise it reports the
earliest path that has none, as the caller wrote it.
-/

namespace Sieve

variable {ρ : Type}

/-- The first reader at the path that `text` spells. -/
def lookup (options : Options) (pathOf : ρ → ColumnPath) (available : List ρ) (text : String) :
    Option ρ :=
  available.find? fun reader => pathOf reader == ColumnPath.parse options.delimiter text

/-- The first reader at each requested path, or the earliest path that has none. -/
def resolve (options : Options) (pathOf : ρ → ColumnPath) (available : List ρ) :
    List String → Except String (List ρ)
  | [] => .ok []
  | text :: rest =>
      match lookup options pathOf available text with
      | none => .error text
      | some reader => (resolve options pathOf available rest).map (reader :: ·)

/-- The sieve bound to the first readers at its paths; the log tells how it went. -/
def bind (sieve : Sieve) (pathOf : ρ → ColumnPath) (available : List ρ) :
    Traced (Except Failure (BoundSieve ρ)) :=
  match resolve sieve.options pathOf available sieve.paths with
  | .ok readers => do
      Traced.log (.sieveBound readers.length available.length)
      return .ok ⟨readers, sieve.predicate⟩
  | .error text => do
      Traced.log (.columnUnresolved text available.length)
      return .error (.unresolvedColumn text)

end Sieve

/-!
## Evaluation row by row

The cursors of a batch's readers are put at every row in turn, and at each row the predicate is
applied once to whatever the bound readers show then.  The bound readers need not belong to the
batch: those that do not stay where they stand.
-/

namespace BoundSieve

/-- Whether the row at which the readers stand matches.  The predicate is applied once. -/
def isMatch (bound : BoundSieve Handle) (shelf : Shelf) : Traced Bool :=
  Traced.applied bound.predicate (shelf.views bound.readers)

/-- The verdicts at the given rows, the cursors of `own` being put at each in turn. -/
def verdicts (bound : BoundSieve Handle) (own : List Handle) :
    List Nat → Shelf → Traced (Mask × Shelf)
  | [], shelf => return ([], shelf)
  | row :: rows, shelf => do
      let moved := shelf.seek own row
      let verdict ← bound.isMatch moved
      let (mask, final) ← bound.verdicts own rows moved
      return (verdict :: mask, final)

/-- The mask of the matching rows among the first `rows`, and the shelf as it stands afterwards. -/
def evaluate (bound : BoundSieve Handle) (own : List Handle) (rows : Nat) (shelf : Shelf) :
    Traced (Mask × Shelf) := do
  let (mask, final) ← bound.verdicts own (List.range rows) shelf
  Traced.log (.batchEvaluated mask.length mask.marked)
  return (mask, final)

/-- Each verdict is the predicate's answer with the cursors of `own` at its row; it does not matter
where they stood before. -/
theorem mask_verdicts
    (bound : BoundSieve Handle) (own : List Handle) (rows : List Nat) (shelf : Shelf) :
    (bound.verdicts own rows shelf).result.1 =
      rows.map fun row => bound.predicate ((shelf.seek own row).views bound.readers) := by
  induction rows generalizing shelf with
  | nil => rfl
  | cons row rows ih =>
      simp [verdicts, isMatch, Traced.applied, ih, Shelf.seek_seek]

theorem shown_verdicts
    (bound : BoundSieve Handle) (own : List Handle) (rows : List Nat) (shelf : Shelf) :
    (bound.verdicts own rows shelf).shown =
      rows.map fun row => (shelf.seek own row).views bound.readers := by
  induction rows generalizing shelf with
  | nil => rfl
  | cons row rows ih =>
      simp [verdicts, isMatch, Traced.applied, ih, Shelf.seek_seek]

theorem final_verdicts
    (bound : BoundSieve Handle) (own : List Handle) (rows : List Nat) (shelf : Shelf) :
    (bound.verdicts own rows shelf).result.2 =
      match rows.getLast? with
      | none => shelf
      | some row => shelf.seek own row := by
  induction rows generalizing shelf with
  | nil => rfl
  | cons row rows ih =>
      simp only [verdicts, Traced.result_bind, Traced.result_pure, ih, List.getLast?_cons]
      cases rows.getLast? with
      | none => rfl
      | some last => exact Shelf.seek_seek own row last shelf

/-! ### A whole evaluation -/

theorem mask_evaluate (bound : BoundSieve Handle) (own : List Handle) (rows : Nat) (shelf : Shelf) :
    (bound.evaluate own rows shelf).result.1 =
      (List.range rows).map fun row => bound.predicate ((shelf.seek own row).views bound.readers) :=
  mask_verdicts bound own (List.range rows) shelf

theorem shown_evaluate
    (bound : BoundSieve Handle) (own : List Handle) (rows : Nat) (shelf : Shelf) :
    (bound.evaluate own rows shelf).shown =
      (List.range rows).map fun row => (shelf.seek own row).views bound.readers := by
  simp [evaluate, shown_verdicts, Traced.log]

theorem final_evaluate
    (bound : BoundSieve Handle) (own : List Handle) (rows : Nat) (shelf : Shelf) :
    (bound.evaluate own rows shelf).result.2 =
      if rows = 0 then shelf else shelf.seek own (rows - 1) := by
  have hlast := final_verdicts bound own (List.range rows) shelf
  rw [List.getLast?_range] at hlast
  show (bound.verdicts own (List.range rows) shelf).result.2 = _
  rw [hlast]
  split <;> simp_all

end BoundSieve

/-!
## Sifting

A batch is sifted over readers made for the occasion: it is flattened, the sieve is bound, and every
row is judged.  The outcome is asked for as a mask, as the matching rows, or as the batch of those
rows.
-/

namespace Batch

def matchMask (batch : Batch) (sieve : Sieve) : Traced (Except Failure Mask) := do
  let shelf := Shelf.ofColumns batch.leafColumns
  let own := List.range shelf.length
  Traced.logAll batch.skippedEvents
  match ← sieve.bind shelf.pathOf own with
  | .error failure => return .error failure
  | .ok bound =>
      let (mask, _) ← bound.evaluate own batch.rows shelf
      return .ok mask

def matchingRows (batch : Batch) (sieve : Sieve) : Traced (Except Failure (List Nat)) := do
  let mask ← batch.matchMask sieve
  return mask.map Mask.rows

def sift (batch : Batch) (sieve : Sieve) : Traced (Except Failure Batch) := do
  let mask ← batch.matchMask sieve
  return mask.bind fun mask => batch.select mask

end Batch

end RowSieve
