import RowSieve.Proofs.Sieve.Verdict

/-!
# Evaluation visits every row once

Evaluating a bound sieve over a source puts the source's readers at its rows, one row after the
other, and asks the predicate once at each.  This holds from any state of the shelf and for any
bound readers: those that do not belong to the source stay where they stand and show the same at
every row.  If all of them belong to it then the mask does not depend on where the readers stood.
-/

namespace RowSieve
namespace BoundSieve

/-- In the states, one for each row in order, the source stands at the row and all else is as it was
before.  The predicate is asked in each of them and nowhere else, and the mask is what it answers.
In the end the source is left at the last row. -/
structure Visits (bound : BoundSieve Handle) (own : List Handle) (rows : Nat) (before : Shelf)
    (states : List Shelf) (outcome : Traced (Mask × Shelf)) : Prop where
  one_each : states.length = rows
  in_order : ∀ row state, states[row]? = some state → Shelf.MovedTo own row before state
  shown : outcome.shown = states.map fun state => state.views bound.readers
  applied : outcome.applications = rows
  answered : outcome.result.1 = states.map fun state => bound.predicate (state.views bound.readers)
  unmoved : rows = 0 → outcome.result.2 = before
  left : ∀ last, rows = last + 1 → Shelf.MovedTo own last before outcome.result.2

variable {shelf : Shelf} {own : List Handle} {batch : Batch}

theorem exists_visits (bound : BoundSieve Handle) (own : List Handle) (rows : Nat) (shelf : Shelf) :
    ∃ states, bound.Visits own rows shelf states (bound.evaluate own rows shelf) := by
  have hshown := bound.shown_evaluate own rows shelf
  have hfinal := bound.final_evaluate own rows shelf
  refine ⟨(List.range rows).map (shelf.seek own), ?_⟩
  constructor
  · simp
  · intro row state hstate
    rw [List.getElem?_map] at hstate
    rcases Option.map_eq_some_iff.mp hstate with ⟨found, hfound, hmoved⟩
    rw [List.getElem?_eq_some_iff] at hfound
    rcases hfound with ⟨_, hrow⟩
    rw [List.getElem_range] at hrow
    rw [← hmoved, ← hrow]
    exact Shelf.movedTo_seek own row shelf
  · rw [hshown, List.map_map]
    rfl
  · rw [Traced.applications, hshown, List.length_map, List.length_range]
  · rw [mask_evaluate, List.map_map]
    rfl
  · intro hnone
    rw [hfinal, if_pos hnone]
  · intro last hrows
    rw [hfinal, if_neg (by omega), hrows]
    exact Shelf.movedTo_seek own last shelf

theorem mask_evaluate_again (bound : BoundSieve Handle) (own : List Handle) (rows : Nat)
    (shelf : Shelf) :
    (bound.evaluate own rows (bound.evaluate own rows shelf).result.2).result.1 =
      (bound.evaluate own rows shelf).result.1 := by
  rw [mask_evaluate, mask_evaluate, final_evaluate]
  split
  · rfl
  · simp only [Shelf.seek_seek]

theorem mask_evaluate_of_holds
    {other : Shelf} (hholds : shelf.Holds own batch.leafColumns)
    (hother : other.Holds own batch.leafColumns) {bound : BoundSieve Handle}
    (hown : ∀ handle ∈ bound.readers, handle ∈ own) (rows : Nat) :
    (bound.evaluate own rows other).result.1 = (bound.evaluate own rows shelf).result.1 := by
  simp only [mask_evaluate, Shelf.views_seek_of_holds hholds hother hown]

/-- Evaluation over the source of a batch visits every row once, whatever the bound readers are.
Evaluating again gives the same mask.  If all bound readers belong to the source then the mask does
not depend on where readers stood; and if they are those that a sieve takes from the source then it
is the mask that the batch has by that sieve. -/
theorem evaluate_visits_rows (hholds : shelf.Holds own batch.leafColumns)
    (bound : BoundSieve Handle) :
    (∃ states, bound.Visits own batch.rows shelf states (bound.evaluate own batch.rows shelf)) ∧
    (bound.evaluate own batch.rows (bound.evaluate own batch.rows shelf).result.2).result.1 =
      (bound.evaluate own batch.rows shelf).result.1 ∧
    ((∀ handle ∈ bound.readers, handle ∈ own) →
      ∀ other : Shelf, other.Holds own batch.leafColumns →
        (bound.evaluate own batch.rows other).result.1 =
          (bound.evaluate own batch.rows shelf).result.1) ∧
    (∀ sieve : Sieve, (sieve.bind shelf.pathOf own).result = .ok bound →
      (batch.matchMask sieve).result = .ok (bound.evaluate own batch.rows shelf).result.1) := by
  refine ⟨exists_visits bound own batch.rows shelf, mask_evaluate_again bound own batch.rows shelf,
    ?_, ?_⟩
  · intro hown other hother
    exact mask_evaluate_of_holds hholds hother hown batch.rows
  · intro sieve hbound
    have hpaths : sieve.missing? batch.leafPaths = none := by
      rw [Batch.leafPaths, ← Shelf.map_pathOf_of_holds hholds]
      exact Sieve.exists_bind_iff.mp ⟨bound, hbound⟩
    rw [(Batch.results_of_bound hpaths).1, mask_evaluate_of_bind hholds hbound]

/-- The readers of the cars, some of them moved, before a reader that is set from outside. -/
def carShelf : Shelf :=
  Shelf.seek [0, 2] 3
    (Shelf.ofColumns Batch.cars.leafColumns ++ [.settable ["note"] .int32 (.int32 7)])

/-- The moved cars are evaluated as the readers of the cars are that were just made. -/
theorem evaluate_visits_rows_cars :
    let own : List Handle := [0, 1, 2, 3]
    let fresh := Shelf.ofColumns Batch.cars.leafColumns
    let bound : BoundSieve Handle := ⟨[1], Sieve.knownCapacity.predicate⟩
    carShelf.Holds own Batch.cars.leafColumns ∧ fresh.Holds own Batch.cars.leafColumns ∧
    (∃ states, bound.Visits own 4 carShelf states (bound.evaluate own 4 carShelf)) ∧
    (bound.evaluate own 4 carShelf).result.1 = [true, false, false, true] ∧
    (bound.evaluate own 4 fresh).result.1 = [true, false, false, true] ∧
    (Sieve.knownCapacity.bind carShelf.pathOf own).result = .ok bound ∧
    (Batch.cars.matchMask .knownCapacity).result = .ok [true, false, false, true] := by
  intro own fresh bound
  have hholds : carShelf.Holds own Batch.cars.leafColumns :=
    .cons ⟨3, rfl⟩ (.cons ⟨0, rfl⟩ (.cons ⟨3, rfl⟩ (.cons ⟨0, rfl⟩ .nil)))
  have hfresh : fresh.Holds own Batch.cars.leafColumns := Shelf.holds_ofColumns _
  have hown : ∀ handle ∈ bound.readers, handle ∈ own := by decide
  have hbound : (Sieve.knownCapacity.bind carShelf.pathOf own).result = .ok bound := by rfl
  have hmask : (bound.evaluate own 4 carShelf).result.1 = [true, false, false, true] := by rfl
  rcases evaluate_visits_rows hholds bound with ⟨hvisits, _, hanywhere, hsieve⟩
  refine ⟨hholds, hfresh, hvisits, hmask, ?_, hbound, ?_⟩
  · exact (hanywhere hown fresh hfresh).trans hmask
  · exact (hsieve Sieve.knownCapacity hbound).trans (congrArg Except.ok hmask)

/-!
## A second reader at a path

A sieve can be bound to a later reader of a source, if it is not offered the first one at the path.
-/

/-- Two columns of one name. -/
def twins : Batch where
  columns :=
    .leaf "a" ⟨.int32, .listed [1], .all⟩ <|
    .leaf "a" ⟨.int32, .listed [2], .all⟩ .nil
  rows := 1

def onlyOnes : Sieve where
  paths := ["a"]
  predicate := (Condition.equals 0 (.int32 1)).predicate
  options := .standard

/-- A sieve is bound to the second of two twins.  That reader belongs to the source, and yet the
mask is not the one that the batch has by that sieve. -/
theorem mask_of_second_twin :
    let shelf := Shelf.ofColumns twins.leafColumns
    let bound : BoundSieve Handle := ⟨[1], onlyOnes.predicate⟩
    shelf.Holds [0, 1] twins.leafColumns ∧
    (onlyOnes.bind shelf.pathOf [1]).result = .ok bound ∧
    (∀ handle ∈ bound.readers, handle ∈ [0, 1]) ∧
    (bound.evaluate [0, 1] twins.rows shelf).result.1 = [false] ∧
    (twins.matchMask onlyOnes).result = .ok [true] ∧
    (twins.matchMask onlyOnes).result ≠
      .ok (bound.evaluate [0, 1] twins.rows shelf).result.1 := by
  intro shelf bound
  have hevaluated : (bound.evaluate [0, 1] twins.rows shelf).result.1 = [false] := by rfl
  have hmask : (twins.matchMask onlyOnes).result = .ok [true] := by rfl
  refine ⟨Shelf.holds_ofColumns twins.leafColumns, by rfl, by decide, hevaluated, hmask, ?_⟩
  rw [hevaluated, hmask]
  nofun

end BoundSieve
end RowSieve
