import RowSieve.Proofs.Reader.Answers

/-!
# In which order answers are decided

A column that is asked for a value of a type looks at the types first, then at the bounds of its
array, then at nullness.  What is left has a slot, and whatever type a column may be asked for, its
slots hold a value that can be given as one of that type.
-/

namespace RowSieve

/-!
## Types and accessors

Each type has one accessor that gives its values.
-/

namespace PhysicalType

/-- Whoever finds the one type declared can ask for values of the other: it is the same type, or
both are types of bytes. -/
def ShownAs (declared asked : PhysicalType) : Prop :=
  asked = declared ∨ asked.isBinaryLike = true ∧ declared.isBinaryLike = true

instance (declared asked : PhysicalType) : Decidable (declared.ShownAs asked) :=
  inferInstanceAs
    (Decidable (asked = declared ∨ asked.isBinaryLike = true ∧ declared.isBinaryLike = true))

theorem readableAs_iff {declared asked : PhysicalType} :
    declared.readableAs asked.accessor.requested = true ↔ declared.ShownAs asked := by
  cases declared <;> cases asked <;> decide

end PhysicalType

namespace Accessor

/-- Values of the type are given by the accessor: it asks for them, or they are bytes of fixed
length and it asks for bytes. -/
def Gives (accessor : Accessor) (type : PhysicalType) : Prop :=
  type = accessor.requested ∨ accessor = .binary ∧ type = .fixedLenByteArray

instance (accessor : Accessor) (type : PhysicalType) : Decidable (accessor.Gives type) :=
  inferInstanceAs
    (Decidable (type = accessor.requested ∨ accessor = .binary ∧ type = .fixedLenByteArray))

theorem gives_iff {accessor : Accessor} {type : PhysicalType} :
    accessor.Gives type ↔ accessor = type.accessor := by
  cases accessor <;> cases type <;> decide

theorem isSome_payload?_iff {accessor : Accessor} {value : Value} :
    (accessor.payload? value).isSome = true ↔ accessor.Gives value.physicalType := by
  cases accessor <;> cases value <;> simp [payload?, Gives, requested, Value.physicalType]

theorem readableAs_iff_gives {accessor : Accessor} {declared : PhysicalType} :
    declared.readableAs accessor.requested = true ↔ accessor.Gives declared := by
  cases accessor <;> cases declared <;> decide

end Accessor

namespace LeafType

end LeafType

theorem Accessor.exists_take? {type : LeafType} {declared : PhysicalType} {accessor : Accessor}
    (hdeclares : type.physicalType? = some declared) (hgives : accessor.Gives declared)
    (slot : type.Slot) :
    ∃ payload, accessor.take? type slot = some payload := by
  rcases LeafType.value?_isSome hdeclares slot with ⟨own, hown, htype⟩
  rw [← htype, ← isSome_payload?_iff] at hgives
  rw [take?_eq, hown, Option.bind_some]
  exact Option.isSome_iff_exists.mp hgives

namespace LeafColumn

/-- What a column answers at `row` to whoever asks for a value of the type, by the first case that
applies. -/
inductive Answers (column : LeafColumn) (row : Nat) (asked : PhysicalType) :
    Except Failure Value → Prop
  | mismatch (types : ¬ column.declared.ShownAs asked) :
      Answers column row asked
        (.error (.readerTypeMismatch column.path asked.accessor.requested column.declared))
  | outside (types : column.declared.ShownAs asked) (past : column.rows ≤ row) :
      Answers column row asked (.error (.rowOutOfBounds column.path row column.rows))
  | null (types : column.declared.ShownAs asked) (inside : row < column.rows)
      (isNull : column.isNullAt row = true) :
      Answers column row asked (.error (.nullValue column.path row))
  | shown (types : column.declared.ShownAs asked) (inside : row < column.rows)
      (present : column.isNullAt row = false) {slot : column.array.type.Slot}
      {payload : asked.accessor.Payload} (slot_eq : column.array.values.get? row = some slot)
      (take_eq : asked.accessor.take? column.array.type slot = some payload) :
      Answers column row asked (.ok (asked.tag payload))

variable {column : LeafColumn} {row : Nat} {asked requested : PhysicalType}

theorem slotAt_mismatch (hrefused : ¬ column.declared.readableAs requested = true) :
    column.slotAt row requested = .error (.readerTypeMismatch column.path requested
      column.declared) := by
  rw [slotAt, if_neg hrefused]

theorem inside_of_get? {slot : column.array.type.Slot}
    (hslot : column.array.values.get? row = some slot) :
    row < column.rows := by
  apply Nat.not_le.mp
  intro hpast
  rw [Slots.get?_eq_none hpast] at hslot
  cases hslot

theorem holds_of_present (hinside : row < column.rows) (hpresent : column.isNullAt row = false) :
    column.validity.holds row = true := by
  simpa [isNullAt, hinside] using hpresent

/-- Whoever is let in gets the slot, where there is one and the column is not null. -/
theorem slotAt_eq_ok_iff {slot : column.array.type.Slot} :
    column.slotAt row requested = .ok slot ↔
      column.declared.readableAs requested = true ∧ column.isNullAt row = false ∧
        column.array.values.get? row = some slot := by
  by_cases hreadable : column.declared.readableAs requested = true
  · cases hnull : column.isNullAt row with
    | true => simp [slotAt_null hreadable hnull]
    | false =>
        cases hget : column.array.values.get? row with
        | none => simp [slotAt, hreadable, hget]
        | some found =>
            have hholds := holds_of_present (inside_of_get? hget) hnull
            simp [slotAt, hreadable, hget, hholds]
  · simp [slotAt_mismatch hreadable, hreadable]

theorem getAt_of_take? {accessor : Accessor} {slot : column.array.type.Slot}
    {payload : accessor.Payload} (hslot : column.slotAt row accessor.requested = .ok slot)
    (htake : accessor.take? column.array.type slot = some payload) :
    column.getAt row accessor = .ok payload := by
  rw [Accessor.take?_eq] at htake
  simp only [getAt, hslot, htake]

theorem read_of_slotAt_error {failure : Failure}
    (hfails : column.slotAt row asked.accessor.requested = .error failure) :
    (column.readingAt row).read asked = .error failure := by
  show (column.getAt row asked.accessor).map asked.tag = _
  rw [getAt_of_slotAt_error hfails]
  rfl

theorem read_of_answers {answer : Except Failure Value}
    (hanswers : column.Answers row asked answer) :
    (column.readingAt row).read asked = answer := by
  cases hanswers with
  | mismatch htypes =>
      rw [← PhysicalType.readableAs_iff] at htypes
      exact read_of_slotAt_error (slotAt_mismatch htypes)
  | outside htypes hpast =>
      rw [← PhysicalType.readableAs_iff] at htypes
      exact read_of_slotAt_error (slotAt_outside htypes hpast)
  | null htypes _ hnull =>
      rw [← PhysicalType.readableAs_iff] at htypes
      exact read_of_slotAt_error (slotAt_null htypes hnull)
  | shown htypes _ hpresent hslot htake =>
      rw [← PhysicalType.readableAs_iff] at htypes
      show (column.getAt row asked.accessor).map asked.tag = _
      rw [getAt_of_take? (slotAt_eq_ok_iff.mpr ⟨htypes, hpresent, hslot⟩) htake]
      rfl

theorem isNullAt_outside (hpast : column.rows ≤ row) : column.isNullAt row = false := by
  rw [isNullAt, decide_eq_false (Nat.not_lt.mpr hpast), Bool.false_and]

end LeafColumn
end RowSieve
