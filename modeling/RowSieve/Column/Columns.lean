import RowSieve.Column.LeafType
import RowSieve.Column.Slots

/-!
# Columns

An array either is a leaf, which holds one slot per row, or a struct, which holds columns of its own
and may itself be null at a row.  A list of named columns is kept as one tree, each column with the
columns that follow it, so that a function on columns is a single recursion.

What a slot holds is kept also where the slot is null: `values` and `validity` are independent.
-/

namespace RowSieve

structure Leaf where
  type : LeafType
  values : Slots type.Slot
  validity : Validity

inductive Columns
  | nil
  /-- A leaf column before `rest`. -/
  | leaf (name : String) (array : Leaf) (rest : Columns)
  /-- A struct column of `rows` rows before `rest`. -/
  | struct (name : String) (validity : Validity) (rows : Nat) (fields rest : Columns)

inductive Column
  | leaf (array : Leaf)
  | struct (validity : Validity) (rows : Nat) (fields : Columns)

namespace Leaf

/-- The array of the given slots, null where none is given. -/
def ofSlots (type : LeafType) (slots : List (Option type.Slot)) : Leaf where
  type := type
  values := .listed (slots.map fun slot => slot.getD type.filler)
  validity := .ofBits (slots.map Option.isSome)

/-- The array of `rows` slots of the type that holds nothing. -/
def nulls (rows : Nat) : Leaf where
  type := .null
  values := .repeated () rows
  validity := .all

def rows (array : Leaf) : Nat :=
  array.values.length

/-- The slots from `offset` on, at most `length` of them. -/
def slice (offset length : Nat) (array : Leaf) : Leaf where
  type := array.type
  values := array.values.slice offset length
  validity := array.validity.slice offset length

/-- The marked slots. -/
def select (mask : Mask) (array : Leaf) : Leaf where
  type := array.type
  values := array.values.select mask
  validity := array.validity.select mask

end Leaf

namespace Column

def rows : Column → Nat
  | .leaf array => array.rows
  | .struct _ rows _ => rows

end Column

namespace Columns

def ofList : List (String × Column) → Columns
  | [] => .nil
  | (name, .leaf array) :: rest => .leaf name array (ofList rest)
  | (name, .struct validity rows fields) :: rest =>
      .struct name validity rows fields (ofList rest)

def toList : Columns → List (String × Column)
  | .nil => []
  | .leaf name array rest => (name, .leaf array) :: rest.toList
  | .struct name validity rows fields rest =>
      (name, .struct validity rows fields) :: rest.toList

/-- The number of rows of the first column, if there is one. -/
def firstRows? : Columns → Option Nat
  | .nil => none
  | .leaf _ array _ => some array.rows
  | .struct _ _ rows _ _ => some rows

/-- Every column at the top has exactly `rows` rows. -/
def allHaveRows (rows : Nat) : Columns → Bool
  | .nil => true
  | .leaf _ array rest => array.rows == rows && rest.allHaveRows rows
  | .struct _ _ own _ rest => own == rows && rest.allHaveRows rows

/-- The rows from `offset` on, at most `length` of them, of every column at every depth. -/
def slice (offset length : Nat) : Columns → Columns
  | .nil => .nil
  | .leaf name array rest => .leaf name (array.slice offset length) (rest.slice offset length)
  | .struct name validity rows fields rest =>
      .struct name (validity.slice offset length) (min length (rows - offset))
        (fields.slice offset length) (rest.slice offset length)

/-- The marked rows of every column at every depth.  A struct column becomes as long as its first
field, and empty if it has no field. -/
def select (mask : Mask) : Columns → Columns
  | .nil => .nil
  | .leaf name array rest => .leaf name (array.select mask) (rest.select mask)
  | .struct name validity _ fields rest =>
      .struct name (validity.select mask) ((fields.select mask).firstRows?.getD 0)
        (fields.select mask) (rest.select mask)

/-- Every column at every depth, its validity included, has exactly `rows` rows. -/
def Rectangular (rows : Nat) : Columns → Prop
  | .nil => True
  | .leaf _ array rest =>
      array.rows = rows ∧ array.validity.Covers rows ∧ rest.Rectangular rows
  | .struct _ validity own fields rest =>
      own = rows ∧ validity.Covers rows ∧ fields.Rectangular rows ∧ rest.Rectangular rows

/-- No struct at any depth is without fields. -/
def Fielded : Columns → Prop
  | .nil => True
  | .leaf _ _ rest => rest.Fielded
  | .struct _ _ _ fields rest => fields ≠ .nil ∧ fields.Fielded ∧ rest.Fielded

instance decidableRectangular (rows : Nat) :
    (columns : Columns) → Decidable (columns.Rectangular rows)
  | .nil => isTrue trivial
  | .leaf _ array rest =>
      haveI := decidableRectangular rows rest
      inferInstanceAs (Decidable
        (array.rows = rows ∧ array.validity.Covers rows ∧ rest.Rectangular rows))
  | .struct _ validity own fields rest =>
      haveI := decidableRectangular rows fields
      haveI := decidableRectangular rows rest
      inferInstanceAs (Decidable
        (own = rows ∧ validity.Covers rows ∧ fields.Rectangular rows ∧ rest.Rectangular rows))

instance : (columns : Columns) → Decidable (columns ≠ .nil)
  | .nil => isFalse fun hne => hne rfl
  | .leaf _ _ _ => isTrue nofun
  | .struct _ _ _ _ _ => isTrue nofun

instance decidableFielded : (columns : Columns) → Decidable columns.Fielded
  | .nil => isTrue trivial
  | .leaf _ _ rest => decidableFielded rest
  | .struct _ _ _ fields rest =>
      haveI := decidableFielded fields
      haveI := decidableFielded rest
      inferInstanceAs (Decidable (fields ≠ .nil ∧ fields.Fielded ∧ rest.Fielded))

/-! ## Cutting keeps the shape -/

theorem rectangular_slice
    {rows : Nat} {columns : Columns} (h : columns.Rectangular rows) (offset length : Nat) :
    (columns.slice offset length).Rectangular (min length (rows - offset)) := by
  induction columns with
  | nil => trivial
  | leaf name array rest ih =>
      obtain ⟨hrows, hvalidity, hrest⟩ := h
      refine ⟨?_, Validity.covers_slice hvalidity offset length, ih hrest⟩
      rw [← hrows]
      exact Slots.length_slice offset length array.values
  | struct name validity own fields rest ihfields ih =>
      obtain ⟨hrows, hvalidity, hfields, hrest⟩ := h
      refine ⟨?_, Validity.covers_slice hvalidity offset length, ihfields hfields, ih hrest⟩
      rw [hrows]

theorem firstRows?_of_rectangular
    {rows : Nat} {columns : Columns} (h : columns.Rectangular rows) (hne : columns ≠ .nil) :
    columns.firstRows? = some rows := by
  cases columns with
  | nil => exact absurd rfl hne
  | leaf name array rest => exact congrArg some h.1
  | struct name validity own fields rest => exact congrArg some h.1

/-- Thinning keeps all columns of one length when every struct has a field. -/
theorem rectangular_select
    {rows : Nat} {columns : Columns} (h : columns.Rectangular rows) (hfielded : columns.Fielded)
    {mask : Mask} (hmask : mask.length = rows) :
    (columns.select mask).Rectangular mask.marked := by
  induction columns with
  | nil => trivial
  | leaf name array rest ih =>
      obtain ⟨hrows, hvalidity, hrest⟩ := h
      refine ⟨?_, Validity.covers_select hvalidity hmask, ih hrest hfielded⟩
      exact Slots.length_select mask array.values (hmask.trans hrows.symm)
  | struct name validity own fields rest ihfields ih =>
      obtain ⟨hrows, hvalidity, hfields, hrest⟩ := h
      obtain ⟨hne, hinner, hafter⟩ := hfielded
      have inner := ihfields hfields hinner
      refine ⟨?_, Validity.covers_select hvalidity hmask, inner, ih hrest hafter⟩
      rw [firstRows?_of_rectangular inner (by cases fields <;> simp_all [select])]
      rfl

end Columns

end RowSieve
