import RowSieve.Proofs.Reader.Decision

/-!
# Lookups that need no default

Columns are looked up with defaults.  A row past the bits of a validity counts as one that holds a
value, validities are combined as far as the shorter of them goes, and a slot from which an accessor
takes nothing is told like a wrong type.  Each of these has a strict form here, which gives nothing
where the default would step in.  In a well-formed batch the strict forms give whatever the others
give: while the batch is flattened, and while its columns are read, wherever the cursors stand.
-/

namespace RowSieve

/-!
## Bits
-/

namespace Validity

/-- One side has no bits, or both sides have as many. -/
def Aligned : Validity → Validity → Prop
  | .all, _ => True
  | .ofBits _, .all => True
  | .ofBits outer, .ofBits inner => outer.length = inner.length

instance : (outer inner : Validity) → Decidable (outer.Aligned inner)
  | .all, _ => isTrue trivial
  | .ofBits _, .all => isTrue trivial
  | .ofBits outer, .ofBits inner => inferInstanceAs (Decidable (outer.length = inner.length))

/-- The rows that hold a value on both sides, if bits stand against bits. -/
def meet? (outer inner : Validity) : Option Validity :=
  if outer.Aligned inner then some (outer.meet inner) else none

/-- The bit of a row, which has to be there if there are bits at all. -/
def bit? : Validity → Nat → Option Bool
  | .all, _ => some true
  | .ofBits bits, row => bits[row]?

variable {rows row : Nat} {outer inner validity : Validity}

theorem meet?_eq_some (houter : outer.Covers rows) (hinner : inner.Covers rows) :
    outer.meet? inner = some (outer.meet inner) := by
  have haligned : outer.Aligned inner := by
    cases outer with
    | all => trivial
    | ofBits outer =>
        cases inner with
        | all => trivial
        | ofBits inner => exact Eq.trans houter hinner.symm
  rw [meet?, if_pos haligned]

theorem bit?_eq_some (hcovers : validity.Covers rows) (hrow : row < rows) :
    validity.bit? row = some (validity.holds row) := by
  cases validity with
  | all => rfl
  | ofBits bits =>
      have hbound : row < bits.length := by
        rw [show bits.length = rows from hcovers]
        exact hrow
      simp only [bit?, holds, List.getElem?_eq_getElem hbound, Option.getD_some]

end Validity

/-!
## Flattening
-/

namespace Columns

/-- The leaves below structs of validity `outer`, if bits stand against bits wherever validities are
combined. -/
def leavesBelow? (path : ColumnPath) (outer : Validity) : Columns → Option (List PlacedLeaf)
  | .nil => some []
  | .leaf name array rest => do
      let validity ← outer.meet? array.validity
      let others ← rest.leavesBelow? path outer
      return ⟨path ++ [name], validity, array⟩ :: others
  | .struct name validity _ fields rest => do
      let inner ← outer.meet? validity
      let inside ← fields.leavesBelow? (path ++ [name]) inner
      let others ← rest.leavesBelow? path outer
      return inside ++ others

theorem leavesBelow?_eq_some
    {rows : Nat} {columns : Columns} (hrect : columns.Rectangular rows) (path : ColumnPath)
    {outer : Validity} (houter : outer.Covers rows) :
    columns.leavesBelow? path outer = some (columns.leavesBelow path outer) := by
  induction columns generalizing path outer with
  | nil => rfl
  | leaf name array rest ih =>
      rcases hrect with ⟨_, hvalidity, hrest⟩
      rw [leavesBelow?, Validity.meet?_eq_some houter hvalidity, ih hrest path houter]
      rfl
  | struct name validity own fields rest ihfields ih =>
      rcases hrect with ⟨_, hvalidity, hfields, hrest⟩
      have hinner := Validity.covers_meet houter hvalidity
      rw [leavesBelow?, Validity.meet?_eq_some houter hvalidity, Option.bind_eq_bind,
        Option.bind_some, ihfields hfields (path ++ [name]) hinner, ih hrest path houter]
      rfl

end Columns

/-!
## Reading
-/

namespace LeafColumn

/-- Whether the column is null at `row`, by a bit that is there. -/
def isNullAt? (column : LeafColumn) (row : Nat) : Option Bool :=
  if row < column.rows then (column.validity.bit? row).map not else some false

/-- What the accessor gives or tells at `row`, by a bit and a slot that are there and from an array
that the accessor is made for. -/
def getAt? (column : LeafColumn) (row : Nat) (accessor : Accessor) :
    Option (Except Failure accessor.Payload) :=
  if column.declared.readableAs accessor.requested then
    if row < column.rows then do
      let present ← column.validity.bit? row
      if present then
        let slot ← column.array.values.get? row
        let payload ← accessor.take? column.array.type slot
        return .ok payload
      else return .error (.nullValue column.path row)
    else return .error (.rowOutOfBounds column.path row column.rows)
  else return .error (.readerTypeMismatch column.path accessor.requested column.declared)

/-- At `row` the column shows what it shows without any default. -/
structure ShowsStrictly (column : LeafColumn) (row : Nat) : Prop where
  isNull : column.isNullAt? row = some (column.readingAt row).isNull
  get : ∀ accessor, column.getAt? row accessor = some ((column.readingAt row).get accessor)

variable {rows : Nat} {column : LeafColumn} {accessor : Accessor}

theorem bit?_of_fits (hfits : column.Fits rows) {row : Nat} (hrow : row < column.rows) :
    column.validity.bit? row = some (column.validity.holds row) := by
  apply Validity.bit?_eq_some hfits.covers
  rw [← hfits.rows_eq]
  exact hrow

theorem isNullAt?_eq_some (hfits : column.Fits rows) (row : Nat) :
    column.isNullAt? row = some (column.isNullAt row) := by
  by_cases hrow : row < column.rows
  · rw [isNullAt?, if_pos hrow, bit?_of_fits hfits hrow, isNullAt, decide_eq_true hrow,
      Bool.true_and]
    rfl
  · rw [isNullAt?, if_neg hrow, isNullAt_outside (Nat.not_lt.mp hrow)]

theorem exists_take? (hfits : column.Fits rows)
    (hreadable : column.declared.readableAs accessor.requested = true)
    (slot : column.array.type.Slot) :
    ∃ payload, accessor.take? column.array.type slot = some payload := by
  have hgives := Accessor.readableAs_iff_gives.mp hreadable
  exact Accessor.exists_take? hfits.declares hgives slot

theorem getAt?_eq_some (hfits : column.Fits rows) (row : Nat) (accessor : Accessor) :
    column.getAt? row accessor = some (column.getAt row accessor) := by
  by_cases hreadable : column.declared.readableAs accessor.requested = true
  · by_cases hrow : row < column.rows
    · have hbit := bit?_of_fits hfits hrow
      rcases Slots.exists_get? hrow with ⟨slot, hslot⟩
      cases hholds : column.validity.holds row with
      | false =>
          simp [getAt?, getAt, slotAt, hreadable, hrow, hbit, hslot, hholds]
      | true =>
          rcases exists_take? hfits hreadable slot with ⟨payload, htake⟩
          have hpayload := htake
          rw [Accessor.take?_eq] at hpayload
          simp [getAt?, getAt, slotAt, hreadable, hrow, hbit, hslot, hholds, htake, hpayload]
    · have houtside := slotAt_outside hreadable (Nat.not_lt.mp hrow)
      rw [getAt?, if_pos hreadable, if_neg hrow, getAt_of_slotAt_error houtside]
      rfl
  · rw [getAt?, if_neg hreadable, getAt_of_slotAt_error (slotAt_mismatch hreadable)]
    rfl

/-- A column whose validity is as long as its array, and which declares the type of its array, is
read without any default wherever its cursor stands. -/
theorem showsStrictly (hfits : column.Fits rows) (row : Nat) : column.ShowsStrictly row where
  isNull := isNullAt?_eq_some hfits row
  get := getAt?_eq_some hfits row

theorem failure_inside {row : Nat} (hrow : row < column.rows) {failure : Failure}
    (hfails : column.getAt row accessor = .error failure) :
    failure = .readerTypeMismatch column.path accessor.requested column.declared ∨
      failure = .nullValue column.path row := by
  by_cases hreadable : column.declared.readableAs accessor.requested = true
  · cases hnull : column.isNullAt row with
    | true =>
        rw [getAt_of_slotAt_error (slotAt_null hreadable hnull)] at hfails
        exact .inr (Except.error.inj hfails).symm
    | false =>
        rcases exists_slotAt hreadable hrow hnull with ⟨slot, hslot⟩
        rw [getAt, hslot] at hfails
        cases hpayload : (column.array.type.value? slot).bind accessor.payload? with
        | none =>
            simp only [hpayload, Except.error.injEq] at hfails
            exact .inl hfails.symm
        | some payload => simp [hpayload] at hfails
  · rw [getAt_of_slotAt_error (slotAt_mismatch hreadable)] at hfails
    exact .inl (Except.error.inj hfails).symm

theorem kind_ne_rowOutOfBounds {row : Nat} (hrow : row < column.rows) {failure : Failure}
    (hfails : (column.readingAt row).get accessor = .error failure) :
    failure.kind ≠ .rowOutOfBounds := by
  rcases failure_inside hrow hfails with htype | hnull
  · rw [htype]
    exact Failure.Kind.noConfusion
  · rw [hnull]
    exact Failure.Kind.noConfusion

end LeafColumn
end RowSieve
