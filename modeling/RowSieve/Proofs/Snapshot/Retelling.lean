import RowSieve.Proofs.Reader.Decision
import RowSieve.Proofs.Snapshot.Loading

/-!
# Values given back

A snapshot gives a value back only through an accessor for the type that the value was read under,
and then it gives what the reading gave.  Any other accessor is told under which type the value is
kept.  Bytes of fixed length are given like other bytes, but they are never taken for a text.
-/

namespace RowSieve

namespace Snapshot

/-!
## Single answers
-/

variable {snapshot : Snapshot} {index : Nat} {accessor : Accessor} {value : Value}

theorem value_outside (hindex : snapshot.values.length ≤ index) :
    snapshot.value index = .error (.indexOutOfBounds index snapshot.values.length) := by
  rw [Snapshot.value, List.getElem?_eq_none hindex]

theorem get_outside (hindex : snapshot.values.length ≤ index) (accessor : Accessor) :
    snapshot.get index accessor = .error (.indexOutOfBounds index snapshot.values.length) := by
  rw [get, value_outside hindex]

theorem getText_outside (hindex : snapshot.values.length ≤ index) :
    snapshot.getText index = .error (.indexOutOfBounds index snapshot.values.length) := by
  rw [getText, value_outside hindex]

theorem physicalType_outside (hindex : snapshot.values.length ≤ index) :
    snapshot.physicalType index = .error (.indexOutOfBounds index snapshot.values.length) := by
  rw [physicalType, value_outside hindex]
  rfl

theorem get_of_payload?
    (hvalue : snapshot.value index = .ok value) {payload : accessor.Payload}
    (hpayload : accessor.payload? value = some payload) :
    snapshot.get index accessor = .ok payload := by
  simp only [get, hvalue, hpayload]

theorem get_refused
    (hvalue : snapshot.value index = .ok value) (hgives : ¬ accessor.Gives value.physicalType) :
    snapshot.get index accessor =
      .error (.typeMismatch index accessor.requested value.physicalType) := by
  have hnone : accessor.payload? value = none := by
    rw [← Option.not_isSome_iff_eq_none, Accessor.isSome_payload?_iff]
    exact hgives
  simp only [get, hvalue, hnone]

theorem exists_get_iff (hvalue : snapshot.value index = .ok value) :
    (∃ payload, snapshot.get index accessor = .ok payload) ↔
      accessor.Gives value.physicalType := by
  constructor
  · intro hget
    rcases hget with ⟨payload, hget⟩
    apply Decidable.byContradiction
    intro hrefused
    rw [get_refused hvalue hrefused] at hget
    cases hget
  · intro hgives
    rcases Option.isSome_iff_exists.mp (Accessor.isSome_payload?_iff.mpr hgives) with
      ⟨payload, hpayload⟩
    exact ⟨payload, get_of_payload? hvalue hpayload⟩

theorem getText_of_text? {bytes : Bytes} {text : String}
    (hvalue : snapshot.value index = .ok (.binary bytes)) (htext : bytes.text? = some text) :
    snapshot.getText index = .ok text := by
  simp only [getText, hvalue, htext]

theorem getText_of_text?_eq_none {bytes : Bytes}
    (hvalue : snapshot.value index = .ok (.binary bytes)) (hnone : bytes.text? = none) :
    snapshot.getText index = .error (.invalidUtf8 index) := by
  simp only [getText, hvalue, hnone]

theorem getText_refused
    (hvalue : snapshot.value index = .ok value) (htype : value.physicalType ≠ .binary) :
    snapshot.getText index = .error (.typeMismatch index .binary value.physicalType) := by
  cases value with
  | binary bytes => exact absurd rfl htype
  | _ => simp only [getText, hvalue]

/-!
## What was loaded
-/

variable {readings : List (Reading Failure)} {types : List PhysicalType}
  {reading : Reading Failure} {type : PhysicalType}

theorem length_of_load (hload : load readings types = .ok snapshot) :
    readings.length = types.length := by
  apply Decidable.byContradiction
  intro hlength
  rw [load_of_length_ne hlength] at hload
  cases hload

theorem length_values_of_load (hload : load readings types = .ok snapshot) :
    snapshot.values.length = readings.length := by
  have hlength := length_of_load hload
  rw [← ((load_eq_ok_iff hlength).mp hload).length_eq, List.length_zip, ← hlength, Nat.min_self]

theorem value_of_load
    (hload : load readings types = .ok snapshot) (hreading : readings[index]? = some reading)
    (htype : types[index]? = some type) :
    ∃ value, reading.read type = .ok value ∧ snapshot.value index = .ok value := by
  have hread := (load_eq_ok_iff (length_of_load hload)).mp hload
  rcases List.forall₂_iff_get.mp hread with ⟨hlength, hvalues⟩
  have hpair : (readings.zip types)[index]? = some (reading, type) :=
    List.getElem?_zip_eq_some.mpr ⟨hreading, htype⟩
  rcases List.getElem?_eq_some_iff.mp hpair with ⟨hbound, hget⟩
  have hkept : index < snapshot.values.length := hlength ▸ hbound
  have hhere := hvalues index hbound hkept
  rw [List.get_eq_getElem, hget] at hhere
  refine ⟨snapshot.values[index], hhere, ?_⟩
  rw [Snapshot.value, List.getElem?_eq_getElem hkept]

/-- At `index` the snapshot holds what the reading gave under the type.  It gives the payload to the
accessor for the type and to no other, and a text can be asked for only among bytes without fixed
length. -/
structure Retells (snapshot : Snapshot) (index : Nat) (reading : Reading Failure)
    (type : PhysicalType) : Prop where
  given : ∃ payload, reading.read type = .ok (type.tag payload) ∧
    reading.get type.accessor = .ok payload ∧ snapshot.value index = .ok (type.tag payload) ∧
    snapshot.get index type.accessor = .ok payload
  typed : snapshot.physicalType index = .ok type
  given_iff : ∀ accessor, (∃ payload, snapshot.get index accessor = .ok payload) ↔
    accessor.Gives type
  refused : ∀ accessor, ¬ accessor.Gives type →
    snapshot.get index accessor = .error (.typeMismatch index accessor.requested type)
  text : type = .binary →
    (∃ text, snapshot.getText index = .ok text) ∨
      snapshot.getText index = .error (.invalidUtf8 index)
  no_text : type ≠ .binary →
    snapshot.getText index = .error (.typeMismatch index .binary type)

theorem get_of_read {value : Value} (hread : reading.read type = .ok value) :
    ∃ payload, reading.get type.accessor = .ok payload ∧ value = type.tag payload := by
  rw [Reading.read] at hread
  cases hget : reading.get type.accessor with
  | error failure =>
      rw [hget] at hread
      cases hread
  | ok payload =>
      rw [hget] at hread
      cases hread
      exact ⟨payload, rfl, rfl⟩

theorem retells_of_load
    (hload : load readings types = .ok snapshot) (hreading : readings[index]? = some reading)
    (htype : types[index]? = some type) :
    snapshot.Retells index reading type := by
  rcases value_of_load hload hreading htype with ⟨value, hread, hvalue⟩
  rcases get_of_read hread with ⟨payload, hget, htag⟩
  have hkept : value.physicalType = type := Reading.physicalType_of_read hread
  constructor
  · refine ⟨payload, htag ▸ hread, hget, htag ▸ hvalue, ?_⟩
    exact get_of_payload? hvalue (htag ▸ PhysicalType.payload?_tag type payload)
  · rw [physicalType, hvalue, ← hkept]
    rfl
  · intro accessor
    rw [exists_get_iff hvalue, hkept]
  · intro accessor hgives
    rw [← hkept] at hgives ⊢
    exact get_refused hvalue hgives
  · intro hbinary
    cases value with
    | binary bytes =>
        cases htext : bytes.text? with
        | some text => exact .inl ⟨text, getText_of_text? hvalue htext⟩
        | none => exact .inr (getText_of_text?_eq_none hvalue htext)
    | _ => cases hkept.trans hbinary
  · intro hother
    rw [← hkept] at hother ⊢
    exact getText_refused hvalue hother

namespace Retells

variable (hretells : snapshot.Retells index reading type)

include hretells

theorem accessor_eq {accessor other : Accessor} {payload : accessor.Payload}
    {another : other.Payload} (hget : snapshot.get index accessor = .ok payload)
    (hother : snapshot.get index other = .ok another) :
    accessor = other := by
  have hgives := (hretells.given_iff accessor).mp ⟨payload, hget⟩
  have hothers := (hretells.given_iff other).mp ⟨another, hother⟩
  rw [Accessor.gives_iff] at hgives hothers
  rw [hgives, hothers]

/-- What is given as a text is given as bytes besides, and in no third way. -/
theorem binary_of_text {text : String} {payload : accessor.Payload}
    (htext : snapshot.getText index = .ok text) (hget : snapshot.get index accessor = .ok payload) :
    type = .binary ∧ accessor = .binary := by
  have hbinary : type = .binary := by
    apply Decidable.byContradiction
    intro hother
    rw [hretells.no_text hother] at htext
    cases htext
  refine ⟨hbinary, ?_⟩
  have hgives := (hretells.given_iff accessor).mp ⟨payload, hget⟩
  rw [Accessor.gives_iff, hbinary] at hgives
  exact hgives

end Retells

end Snapshot
end RowSieve
