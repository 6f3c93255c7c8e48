import RowSieve.Batch
import RowSieve.Proofs.Batch.Selection

/-!
# Thinning batches

Which shape thinning gives to the columns of a batch, and when it fails.  A struct column becomes as
long as its first field.  So it comes out too short exactly when going down through first fields
leads to a struct that has none, and this is noticed only when some but not all rows are kept.
-/

namespace RowSieve

/-!
## Structs that come out too short
-/

/-- Going down through first fields leads to a struct without fields. -/
def Columns.Hollow : Columns → Prop
  | .nil => True
  | .leaf _ _ _ => False
  | .struct _ _ _ fields _ => fields.Hollow

/-- The array is a struct from which first fields lead to a struct without fields. -/
def Column.Hollow : Column → Prop
  | .leaf _ => False
  | .struct _ _ fields => fields.Hollow

namespace Columns

variable {rows : Nat} {columns : Columns} {mask : Mask}

theorem firstRows?_select_iff
    (hrect : columns.Rectangular rows) (hmask : mask.length = rows) (hsome : mask.marked ≠ 0) :
    (columns.select mask).firstRows?.getD 0 = mask.marked ↔ ¬ columns.Hollow := by
  induction columns with
  | nil =>
      constructor
      · intro hzero
        exact absurd hzero.symm hsome
      · intro hfalse
        exact absurd trivial hfalse
  | leaf name array rest _ =>
      constructor
      · intro _ hfalse
        exact hfalse
      · intro _
        exact Slots.length_select mask array.values (hmask.trans hrect.1.symm)
  | struct name validity own fields rest ihfields _ =>
      rcases hrect with ⟨_, _, hfields, _⟩
      exact ihfields hfields

theorem allHaveRows_select_iff
    (hrect : columns.Rectangular rows) (hmask : mask.length = rows) (hsome : mask.marked ≠ 0) :
    (columns.select mask).allHaveRows mask.marked = true ↔
      ∀ column ∈ columns.toList, ¬ column.2.Hollow := by
  induction columns with
  | nil => simp [select, allHaveRows, toList]
  | leaf name array rest ih =>
      rcases hrect with ⟨hrows, _, hrest⟩
      have hlength : (array.select mask).rows = mask.marked :=
        Slots.length_select mask array.values (hmask.trans hrows.symm)
      simp [select, allHaveRows, toList, hlength, ih hrest, Column.Hollow]
  | struct name validity own fields rest _ ih =>
      rcases hrect with ⟨_, _, hfields, hrest⟩
      have hfirst := firstRows?_select_iff hfields hmask hsome
      simp [select, allHaveRows, toList, hfirst, ih hrest, Column.Hollow]

theorem not_hollow_of_fielded (hfielded : columns.Fielded) (hne : columns ≠ .nil) :
    ¬ columns.Hollow := by
  induction columns with
  | nil => exact absurd rfl hne
  | leaf name array rest _ => exact fun hfalse => hfalse
  | struct name validity own fields rest ihfields _ =>
      rcases hfielded with ⟨hfieldsNe, hfields, _⟩
      exact ihfields hfields hfieldsNe

theorem not_hollow_of_mem_toList
    (hfielded : columns.Fielded) {column : String × Column} (hcolumn : column ∈ columns.toList) :
    ¬ column.2.Hollow := by
  induction columns with
  | nil => cases hcolumn
  | leaf name array rest ih =>
      rcases List.mem_cons.mp hcolumn with hhere | hlater
      · rw [hhere]
        exact fun hfalse => hfalse
      · exact ih hfielded hlater
  | struct name validity own fields rest _ ih =>
      rcases hfielded with ⟨hne, hfields, hrest⟩
      rcases List.mem_cons.mp hcolumn with hhere | hlater
      · rw [hhere]
        exact not_hollow_of_fielded hfields hne
      · exact ih hrest hlater

/-!
## Shape

Cutting and thinning leave no struct without fields where there was none.
-/

theorem slice_ne_nil (offset length : Nat) (hne : columns ≠ .nil) :
    columns.slice offset length ≠ .nil := by
  cases columns with
  | nil => exact absurd rfl hne
  | leaf name array rest => exact Columns.noConfusion
  | struct name validity own fields rest => exact Columns.noConfusion

theorem select_ne_nil (mask : Mask) (hne : columns ≠ .nil) : columns.select mask ≠ .nil := by
  cases columns with
  | nil => exact absurd rfl hne
  | leaf name array rest => exact Columns.noConfusion
  | struct name validity own fields rest => exact Columns.noConfusion

theorem fielded_slice (offset length : Nat) (hfielded : columns.Fielded) :
    (columns.slice offset length).Fielded := by
  induction columns with
  | nil => trivial
  | leaf name array rest ih => exact ih hfielded
  | struct name validity own fields rest ihfields ih =>
      rcases hfielded with ⟨hne, hfields, hrest⟩
      exact ⟨slice_ne_nil offset length hne, ihfields hfields, ih hrest⟩

theorem fielded_select (mask : Mask) (hfielded : columns.Fielded) :
    (columns.select mask).Fielded := by
  induction columns with
  | nil => trivial
  | leaf name array rest ih => exact ih hfielded
  | struct name validity own fields rest ihfields ih =>
      rcases hfielded with ⟨hne, hfields, hrest⟩
      exact ⟨select_ne_nil mask hne, ihfields hfields, ih hrest⟩

end Columns

/-!
## Thinning a batch
-/

namespace Batch

variable {batch kept : Batch} {mask : Mask}

theorem wellFormed_slice (hformed : batch.WellFormed) (offset length : Nat) :
    (batch.slice offset length).WellFormed :=
  Columns.rectangular_slice hformed offset length

theorem select_eq_ok (hkept : batch.select mask = .ok kept) :
    (mask.marked = 0 ∧ kept = batch.slice 0 0) ∨
      (mask.marked = batch.rows ∧ kept = batch) ∨
      kept = ⟨batch.columns.select mask, mask.marked⟩ := by
  unfold select at hkept
  split at hkept
  · rename_i hnone
    cases hkept
    exact Or.inl ⟨hnone, rfl⟩
  · split at hkept
    · rename_i hall
      cases hkept
      exact Or.inr (Or.inl ⟨hall, rfl⟩)
    · split at hkept
      · cases hkept
        exact Or.inr (Or.inr rfl)
      · cases hkept

theorem kind_of_select_error {failure : Failure} (herror : batch.select mask = .error failure) :
    failure.kind = .arrow := by
  unfold select at herror
  split at herror
  · cases herror
  · split at herror
    · cases herror
    · split at herror
      · cases herror
      · cases herror
        rfl

/-- Thinning fails when some but not all rows are kept and a top column is hollow. -/
theorem select_fails_iff (hformed : batch.WellFormed) (hmask : mask.length = batch.rows) :
    (∃ failure, batch.select mask = .error failure) ↔
      true ∈ mask ∧ false ∈ mask ∧ ∃ column ∈ batch.columns.toList, column.2.Hollow := by
  unfold select
  by_cases hnone : mask.marked = 0
  · rw [if_pos hnone]
    have hfalse : true ∉ mask := Mask.marked_eq_zero_iff.mp hnone
    simp [hfalse]
  · rw [if_neg hnone]
    have hsome : true ∈ mask := by
      apply Classical.byContradiction
      intro habsent
      exact hnone (Mask.marked_eq_zero_iff.mpr habsent)
    by_cases hall : mask.marked = batch.rows
    · rw [if_pos hall]
      have hfull : false ∉ mask := Mask.marked_eq_length_iff.mp (hall.trans hmask.symm)
      simp [hfull]
    · rw [if_neg hall]
      have hdropped : false ∈ mask := by
        apply Classical.byContradiction
        intro habsent
        exact hall ((Mask.marked_eq_length_iff.mpr habsent).trans hmask)
      have hshape := Columns.allHaveRows_select_iff hformed hmask hnone
      by_cases hrows : (batch.columns.select mask).allHaveRows mask.marked = true
      · rw [if_pos hrows]
        have hsolid := hshape.mp hrows
        constructor
        · rintro ⟨failure, herror⟩
          cases herror
        · rintro ⟨_, _, column, hcolumn, hhollow⟩
          exact absurd hhollow (hsolid column hcolumn)
      · rw [if_neg hrows]
        constructor
        · intro _
          refine ⟨hsome, hdropped, ?_⟩
          apply Classical.byContradiction
          intro hnot
          apply hrows
          apply hshape.mpr
          intro column hcolumn hhollow
          exact hnot ⟨column, hcolumn, hhollow⟩
        · intro _
          exact ⟨_, rfl⟩

theorem exists_select (hformed : batch.WellFormed) (hfielded : batch.columns.Fielded)
    (hmask : mask.length = batch.rows) :
    ∃ kept, batch.select mask = .ok kept := by
  cases hselect : batch.select mask with
  | ok kept => exact ⟨kept, rfl⟩
  | error failure =>
      rcases (select_fails_iff hformed hmask).mp ⟨failure, hselect⟩ with
        ⟨_, _, column, hcolumn, hhollow⟩
      exact absurd hhollow (Columns.not_hollow_of_mem_toList hfielded hcolumn)

theorem wellFormed_select
    (hformed : batch.WellFormed) (hfielded : batch.columns.Fielded)
    (hmask : mask.length = batch.rows) (hkept : batch.select mask = .ok kept) :
    kept.WellFormed := by
  rcases select_eq_ok hkept with ⟨_, hempty⟩ | ⟨_, hsame⟩ | hthinned
  · rw [hempty]
    exact wellFormed_slice hformed 0 0
  · rw [hsame]
    exact hformed
  · rw [hthinned]
    exact Columns.rectangular_select hformed hfielded hmask

theorem fielded_of_select
    (hfielded : batch.columns.Fielded) (hkept : batch.select mask = .ok kept) :
    kept.columns.Fielded := by
  rcases select_eq_ok hkept with ⟨_, hempty⟩ | ⟨_, hsame⟩ | hthinned
  · rw [hempty]
    exact Columns.fielded_slice 0 0 hfielded
  · rw [hsame]
    exact hfielded
  · rw [hthinned]
    exact Columns.fielded_select mask hfielded

end Batch
end RowSieve
