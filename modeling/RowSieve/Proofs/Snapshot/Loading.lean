import Mathlib.Data.List.Forall2
import RowSieve.Proofs.Batch.Rows
import RowSieve.Proofs.Reader.Answers
import RowSieve.Snapshot

/-!
# Loading all or nothing

A snapshot is loaded from readings and types of one number, or not at all.  Each value is what the
reading at its place gives under the type there, and if some reading gives none then the failure of
the first such reading is what is reported.  Columns that are loaded as the types they declare can
fail in two ways only: a cursor stands past the end of its column, or on a null row.
-/

namespace RowSieve

/-!
## Reading one after the other

What is reported is the failure of the first reading that fails.
-/

section
variable {ε α β : Type} {f : α → β} {result : Except ε α}

theorem map_eq_error_iff {failure : ε} :
    result.map f = .error failure ↔ result = .error failure := by
  cases result <;> simp [Except.map]

theorem exists_map_eq_ok_iff : (∃ y, result.map f = .ok y) ↔ ∃ x, result = .ok x := by
  cases result <;> simp [Except.map]

end

namespace Reading

variable {ε : Type} {pairs : List (Reading ε × PhysicalType)}

theorem readAll_eq_ok_iff {values : List Value} :
    readAll pairs = .ok values ↔
      List.Forall₂ (fun pair value => pair.1.read pair.2 = .ok value) pairs values := by
  induction pairs generalizing values with
  | nil =>
      rw [List.forall₂_nil_left_iff, readAll, Except.ok.injEq]
      exact eq_comm
  | cons pair rest ih =>
      rw [readAll, List.forall₂_cons_left_iff]
      cases hread : pair.1.read pair.2 with
      | error failure => simp
      | ok value =>
          constructor
          · intro hall
            cases hrest : readAll rest with
            | error failure =>
                rw [hrest] at hall
                cases hall
            | ok others =>
                rw [hrest] at hall
                cases hall
                exact ⟨value, others, rfl, ih.mp hrest, rfl⟩
          · intro hread
            rcases hread with ⟨first, others, hfirst, hothers, hvalues⟩
            cases hfirst
            rw [ih.mpr hothers, hvalues]
            rfl

/-- The reading at `place` gives no value under its type, and each before it gives one. -/
structure FailsFirst (pairs : List (Reading ε × PhysicalType)) (place : Nat) (failure : ε) :
    Prop where
  fails : ∃ pair, pairs[place]? = some pair ∧ pair.1.read pair.2 = .error failure
  earlier : ∀ (before : Nat) (pair : Reading ε × PhysicalType), before < place →
    pairs[before]? = some pair → ∃ value, pair.1.read pair.2 = .ok value

theorem failsFirst_cons_of_ok
    {pair : Reading ε × PhysicalType} {value : Value} (hread : pair.1.read pair.2 = .ok value)
    {place : Nat} {failure : ε} :
    FailsFirst (pair :: pairs) (place + 1) failure ↔ FailsFirst pairs place failure := by
  constructor
  · intro hfirst
    refine ⟨hfirst.fails, ?_⟩
    intro before other hbefore hother
    exact hfirst.earlier (before + 1) other (Nat.succ_lt_succ hbefore) hother
  · intro hfirst
    refine ⟨hfirst.fails, ?_⟩
    intro before other hbefore hother
    cases before with
    | zero =>
        cases hother
        exact ⟨value, hread⟩
    | succ before => exact hfirst.earlier before other (Nat.lt_of_succ_lt_succ hbefore) hother

theorem failsFirst_map
    {α : Type} {xs : List α} {g : α → Reading ε × PhysicalType} {place : Nat} {failure : ε} :
    FailsFirst (xs.map g) place failure ↔
      (∃ x, xs[place]? = some x ∧ (g x).1.read (g x).2 = .error failure) ∧
        ∀ (before : Nat) (x : α), before < place → xs[before]? = some x →
          ∃ value, (g x).1.read (g x).2 = .ok value := by
  constructor
  · intro hfirst
    constructor
    · rcases hfirst.fails with ⟨pair, hpair, hfails⟩
      rw [List.getElem?_map] at hpair
      rcases Option.map_eq_some_iff.mp hpair with ⟨x, hx, hmade⟩
      exact ⟨x, hx, hmade ▸ hfails⟩
    · intro before x hbefore hx
      exact hfirst.earlier before (g x) hbefore (by rw [List.getElem?_map, hx]; rfl)
  · intro hfirst
    rcases hfirst with ⟨⟨x, hx, hfails⟩, hearlier⟩
    refine ⟨⟨g x, by rw [List.getElem?_map, hx]; rfl, hfails⟩, ?_⟩
    intro before pair hbefore hpair
    rw [List.getElem?_map] at hpair
    rcases Option.map_eq_some_iff.mp hpair with ⟨other, hother, hmade⟩
    exact hmade ▸ hearlier before other hbefore hother

theorem readAll_eq_error_iff {failure : ε} :
    readAll pairs = .error failure ↔ ∃ place, FailsFirst pairs place failure := by
  induction pairs with
  | nil =>
      constructor
      · intro hfails
        cases hfails
      · intro hnone
        rcases hnone with ⟨_, ⟨_, hnone, _⟩, _⟩
        cases hnone
  | cons pair rest ih =>
      rw [readAll]
      cases hread : pair.1.read pair.2 with
      | error first =>
          constructor
          · intro hfails
            cases hfails
            exact ⟨0, ⟨pair, rfl, hread⟩, fun _ _ hnone => nomatch hnone⟩
          · intro hfirst
            rcases hfirst with ⟨place, ⟨found, hfound, hfails⟩, hearlier⟩
            cases place with
            | zero =>
                cases hfound
                cases hread.symm.trans hfails
                rfl
            | succ place =>
                rcases hearlier 0 pair (Nat.succ_pos place) rfl with ⟨value, hvalue⟩
                cases hread.symm.trans hvalue
      | ok value =>
          simp only [map_eq_error_iff, ih]
          constructor
          · intro hfails
            rcases hfails with ⟨place, hfirst⟩
            exact ⟨place + 1, (failsFirst_cons_of_ok hread).mpr hfirst⟩
          · intro hfails
            rcases hfails with ⟨place, hfirst⟩
            cases place with
            | zero =>
                rcases hfirst.fails with ⟨found, hfound, hfails⟩
                cases hfound
                cases hread.symm.trans hfails
            | succ place => exact ⟨place, (failsFirst_cons_of_ok hread).mp hfirst⟩

theorem exists_readAll_iff :
    (∃ values, readAll pairs = .ok values) ↔
      ∀ pair ∈ pairs, ∃ value, pair.1.read pair.2 = .ok value := by
  induction pairs with
  | nil => simp [readAll]
  | cons pair rest ih =>
      rw [List.forall_mem_cons, ← ih, readAll]
      cases pair.1.read pair.2 with
      | error failure => simp
      | ok value => simp [exists_map_eq_ok_iff]

end Reading

/-!
## Loading
-/

namespace Snapshot

variable {readings : List (Reading Failure)} {types : List PhysicalType}

theorem load_of_length_ne (hlength : readings.length ≠ types.length) :
    load readings types = .error (.lengthMismatch readings.length types.length) := by
  rw [load, if_neg hlength]

theorem load_eq_ok_iff (hlength : readings.length = types.length) {snapshot : Snapshot} :
    load readings types = .ok snapshot ↔
      List.Forall₂ (fun pair value => pair.1.read pair.2 = .ok value) (readings.zip types)
        snapshot.values := by
  rw [load, if_pos hlength, ← Reading.readAll_eq_ok_iff]
  rcases snapshot with ⟨values⟩
  cases Reading.readAll (readings.zip types) <;> simp [Except.map]

theorem exists_load_iff (hlength : readings.length = types.length) :
    (∃ snapshot, load readings types = .ok snapshot) ↔
      ∀ pair ∈ readings.zip types, ∃ value, pair.1.read pair.2 = .ok value := by
  rw [load, if_pos hlength, exists_map_eq_ok_iff, Reading.exists_readAll_iff]

theorem load_eq_error_iff (hlength : readings.length = types.length) {failure : Failure} :
    load readings types = .error failure ↔
      ∃ place, Reading.FailsFirst (readings.zip types) place failure := by
  rw [load, if_pos hlength, map_eq_error_iff, Reading.readAll_eq_error_iff]

theorem types_of_load
    (hlength : readings.length = types.length) {snapshot : Snapshot}
    (hload : load readings types = .ok snapshot) :
    snapshot.values.map Value.physicalType = types := by
  have hread := (load_eq_ok_iff hlength).mp hload
  have hsame : List.Forall₂ (· = ·) ((readings.zip types).map Prod.snd)
      (snapshot.values.map Value.physicalType) := by
    rw [List.forall₂_map_left_iff, List.forall₂_map_right_iff]
    exact hread.imp fun _ _ hvalue => (Reading.physicalType_of_read hvalue).symm
  rw [List.forall₂_eq_eq_eq, List.map_snd_zip (Nat.le_of_eq hlength.symm)] at hsame
  exact hsame.symm

theorem mismatch_iff (readers : List Reader) (types : List PhysicalType) :
    (∃ found wanted,
      load (readers.map Reader.reading) types = .error (.lengthMismatch found wanted)) ↔
        readers.length ≠ types.length := by
  constructor
  · intro hload hsame
    rcases hload with ⟨found, wanted, hload⟩
    have hlength : (readers.map Reader.reading).length = types.length := by
      rw [List.length_map, hsame]
    rcases (load_eq_error_iff hlength).mp hload with ⟨_, ⟨pair, hpair, hfails⟩, _⟩
    have hmem := (List.of_mem_zip (List.mem_of_getElem? hpair)).1
    rcases List.mem_map.mp hmem with ⟨reader, _, hreading⟩
    rw [← hreading] at hfails
    exact Reader.ofReader_of_read hfails
  · intro hlength
    rw [← List.length_map Reader.reading] at hlength
    exact ⟨_, _, load_of_length_ne hlength⟩

/-!
## Loading as declared
-/

variable {stands : List (LeafColumn × Nat)}

/-- Columns, each with a cursor at a row. -/
def standing (stands : List (LeafColumn × Nat)) : List Reader :=
  stands.map fun stand => .leaf stand.1 stand.2

theorem loadDeclared_standing (stands : List (LeafColumn × Nat)) :
    loadDeclared ((standing stands).map Reader.reading) =
      (Reading.readAll (stands.map fun stand =>
        (stand.1.readingAt stand.2, stand.1.declared))).map Snapshot.mk := by
  rw [loadDeclared, standing, List.map_map, List.map_map]
  rfl

theorem exists_loadDeclared_iff (hmade : ∀ stand ∈ stands, stand.1.Made) :
    (∃ snapshot, loadDeclared ((standing stands).map Reader.reading) = .ok snapshot) ↔
      ∀ stand ∈ stands, stand.1.ShowsAt stand.2 := by
  rw [loadDeclared_standing, exists_map_eq_ok_iff, Reading.exists_readAll_iff, List.forall_mem_map]
  constructor
  · intro hall stand hstand
    exact (LeafColumn.exists_read_declared_iff (hmade stand hstand)).mp (hall stand hstand)
  · intro hall stand hstand
    exact (LeafColumn.exists_read_declared_iff (hmade stand hstand)).mpr (hall stand hstand)

/-- The first cursor that stands outside its column or on a null row is reported. -/
theorem loadDeclared_eq_error_iff
    (hmade : ∀ stand ∈ stands, stand.1.Made) {failure : Failure} :
    loadDeclared ((standing stands).map Reader.reading) = .error failure ↔
      ∃ (place : Nat) (stand : LeafColumn × Nat), stands[place]? = some stand ∧
        stand.1.MissesAt stand.2 failure ∧
        ∀ (before : Nat) (earlier : LeafColumn × Nat), before < place →
          stands[before]? = some earlier → earlier.1.ShowsAt earlier.2 := by
  have hmadeAt : ∀ (place : Nat) (stand : LeafColumn × Nat), stands[place]? = some stand →
      stand.1.Made := fun _ stand hstand => hmade stand (List.mem_of_getElem? hstand)
  rw [loadDeclared_standing, map_eq_error_iff, Reading.readAll_eq_error_iff]
  simp only [Reading.failsFirst_map]
  constructor
  · intro hfirst
    rcases hfirst with ⟨place, ⟨stand, hstand, hfails⟩, hearlier⟩
    refine ⟨place, stand, hstand, ?_, ?_⟩
    · exact (LeafColumn.read_declared_eq_error_iff (hmadeAt place stand hstand)).mp hfails
    · intro before other hbefore hother
      exact (LeafColumn.exists_read_declared_iff (hmadeAt before other hother)).mp
        (hearlier before other hbefore hother)
  · intro hmisses
    rcases hmisses with ⟨place, stand, hstand, hmisses, hearlier⟩
    refine ⟨place, ⟨stand, hstand, ?_⟩, ?_⟩
    · exact (LeafColumn.read_declared_eq_error_iff (hmadeAt place stand hstand)).mpr hmisses
    · intro before other hbefore hother
      exact (LeafColumn.exists_read_declared_iff (hmadeAt before other hother)).mpr
        (hearlier before other hbefore hother)

theorem loadDeclared_ne_mismatch (readers : List Reader) (found wanted : Nat) :
    loadDeclared (readers.map Reader.reading) ≠ .error (.lengthMismatch found wanted) := by
  intro hload
  rw [← load_declared] at hload
  have hlength := (mismatch_iff readers _).mp ⟨found, wanted, hload⟩
  simp at hlength

/-!
## All or nothing
-/

/-- Loading is all or nothing.  Readers and types of different numbers are refused before anything
is read, and no reader reports such a difference itself.  Otherwise a snapshot is made just when
every reading gives a value under its type, of these values in order and with these types, and if
some reading gives none then the first such reading is reported.  Columns loaded as what they
declare fail by the first cursor that stands past the end or on a null row. -/
theorem load_all_or_nothing
    (readings : List (Reading Failure)) (types : List PhysicalType) (readers : List Reader)
    (stands : List (LeafColumn × Nat)) (hmade : ∀ stand ∈ stands, stand.1.Made) :
    (readings.length ≠ types.length →
      load readings types = .error (.lengthMismatch readings.length types.length)) ∧
    ((∃ found wanted,
        load (readers.map Reader.reading) types = .error (.lengthMismatch found wanted)) ↔
      readers.length ≠ types.length) ∧
    (readings.length = types.length →
      ((∃ snapshot, load readings types = .ok snapshot) ↔
        ∀ pair ∈ readings.zip types, ∃ value, pair.1.read pair.2 = .ok value) ∧
      (∀ snapshot, load readings types = .ok snapshot ↔
        List.Forall₂ (fun pair value => pair.1.read pair.2 = .ok value) (readings.zip types)
          snapshot.values) ∧
      (∀ snapshot, load readings types = .ok snapshot →
        snapshot.values.map Value.physicalType = types) ∧
      ∀ failure, load readings types = .error failure ↔
        ∃ place, Reading.FailsFirst (readings.zip types) place failure) ∧
    (∀ found wanted,
      loadDeclared (readers.map Reader.reading) ≠ .error (.lengthMismatch found wanted)) ∧
    ((∃ snapshot, loadDeclared ((standing stands).map Reader.reading) = .ok snapshot) ↔
      ∀ stand ∈ stands, stand.1.ShowsAt stand.2) ∧
    (∀ failure, loadDeclared ((standing stands).map Reader.reading) = .error failure ↔
      ∃ (place : Nat) (stand : LeafColumn × Nat), stands[place]? = some stand ∧
        stand.1.MissesAt stand.2 failure ∧
        ∀ (before : Nat) (earlier : LeafColumn × Nat), before < place →
          stands[before]? = some earlier → earlier.1.ShowsAt earlier.2) := by
  refine ⟨load_of_length_ne, mismatch_iff readers types, ?_, loadDeclared_ne_mismatch readers,
    exists_loadDeclared_iff hmade, fun _ => loadDeclared_eq_error_iff hmade⟩
  intro hlength
  exact ⟨exists_load_iff hlength, fun _ => load_eq_ok_iff hlength, fun _ => types_of_load hlength,
    fun _ => load_eq_error_iff hlength⟩

/-- All columns of the first car can be loaded.  Of the third car the engine is not known, so the
first of its columns is reported, and there is no fifth car.  One type is too few for four columns,
and whether the engine has a turbo is no number. -/
theorem load_all_or_nothing_cars :
    let car (row : Nat) := Batch.cars.leafColumns.map fun column => (column, row)
    let readings (row : Nat) := (standing (car row)).map Reader.reading
    (∀ row, ∀ stand ∈ car row, stand.1.Made) ∧
    (∃ snapshot, loadDeclared (readings 0) = .ok snapshot) ∧
    loadDeclared (readings 2) = .error (.nullValue ["engine", "capacity"] 2) ∧
    loadDeclared (readings 4) = .error (.rowOutOfBounds ["model"] 4 4) ∧
    (readings 0).length ≠ [PhysicalType.binary].length ∧
    load (readings 0) [.binary] = .error (.lengthMismatch 4 1) ∧
    (readings 0).length = [PhysicalType.binary, .int32, .int32, .int64].length ∧
    load (readings 0) [.binary, .int32, .int32, .int64] =
      .error (.readerTypeMismatch ["engine", "turbo"] .int32 .boolean) := by
  intro car readings
  have hmade : ∀ row, ∀ stand ∈ car row, stand.1.Made := by
    intro row stand hstand
    rcases List.mem_map.mp hstand with ⟨column, hcolumn, hmake⟩
    rw [← hmake]
    exact .ofBatch hcolumn
  have hfirst : ∀ (before : Nat) (stand : LeafColumn × Nat), before < 1 →
      (car 2)[before]? = some stand → stand.1.ShowsAt stand.2 := by
    intro before stand hbefore hstand
    cases Nat.lt_one_iff.mp hbefore
    cases hstand
    exact ⟨by decide, rfl⟩
  rcases load_all_or_nothing (readings 0) [.binary] [] (car 0) (hmade 0) with
    ⟨hfew, _, _, _, hdeclared, _⟩
  rcases load_all_or_nothing (readings 0) [.binary, .int32, .int32, .int64] [] (car 2) (hmade 2) with
    ⟨_, _, htyped, _, _, hnull⟩
  rcases load_all_or_nothing [] [] [] (car 4) (hmade 4) with ⟨_, _, _, _, _, hpast⟩
  refine ⟨hmade, hdeclared.mpr ?_, ?_, ?_, by decide, hfew (by decide), rfl, ?_⟩
  · intro stand hstand
    rcases List.mem_map.mp hstand with ⟨column, hcolumn, hmake⟩
    have hall : ∀ column ∈ Batch.cars.leafColumns, 0 < column.rows ∧ column.isNullAt 0 = false := by
      decide
    rw [← hmake]
    exact hall column hcolumn
  · exact (hnull _).mpr ⟨1, _, rfl, .null (by decide) rfl, hfirst⟩
  · exact (hpast _).mpr ⟨0, _, rfl, .outside (by decide), fun _ _ hnone => nomatch hnone⟩
  · refine ((htyped rfl).2.2.2 _).mpr ⟨2, ⟨_, rfl, rfl⟩, ?_⟩
    intro before pair hbefore hpair
    match before, hbefore, hpair with
    | 0, _, hpair =>
        cases hpair
        exact ⟨_, rfl⟩
    | 1, _, hpair =>
        cases hpair
        exact ⟨_, rfl⟩

end Snapshot
end RowSieve
