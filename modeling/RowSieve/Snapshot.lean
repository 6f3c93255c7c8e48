import RowSieve.Failure
import RowSieve.Reading

/-!
# Snapshots

The values that several readings showed at one moment, each under a type.  A snapshot exists only if
every value could be read, and it gives a value back only as the type it was read under.
-/

namespace RowSieve

/-- Values read at one moment. -/
structure Snapshot where
  values : List Value
  deriving DecidableEq

namespace Snapshot

variable {ε : Type}

/-- Reads every reading as the type of the same position. -/
def load (readings : List (Reading Failure)) (types : List PhysicalType) :
    Except Failure Snapshot :=
  if readings.length = types.length then
    (Reading.readAll (readings.zip types)).map Snapshot.mk
  else .error (.lengthMismatch readings.length types.length)

def loadDeclared (readings : List (Reading ε)) : Except ε Snapshot :=
  (Reading.readAll (readings.map fun reading => (reading, reading.declared))).map Snapshot.mk

theorem load_declared (readings : List (Reading Failure)) :
    load readings (readings.map Reading.declared) = loadDeclared readings := by
  have pairs : readings.zip (readings.map Reading.declared) =
      readings.map fun reading => (reading, reading.declared) := by
    induction readings with
    | nil => rfl
    | cons reading rest ih => simp [ih]
  simp [load, loadDeclared, pairs]

/-! ## Reading back -/

def value (snapshot : Snapshot) (index : Nat) : Except Failure Value :=
  match snapshot.values[index]? with
  | some value => .ok value
  | none => .error (.indexOutOfBounds index snapshot.values.length)

def physicalType (snapshot : Snapshot) (index : Nat) : Except Failure PhysicalType :=
  (snapshot.value index).map Value.physicalType

/-- The payload at `index`, if it is one that the accessor gives. -/
def get (snapshot : Snapshot) (index : Nat) (accessor : Accessor) :
    Except Failure accessor.Payload :=
  match snapshot.value index with
  | .error failure => .error failure
  | .ok value =>
      match accessor.payload? value with
      | some payload => .ok payload
      | none => .error (.typeMismatch index accessor.requested value.physicalType)

/-- The text that the bytes at `index` encode; bytes of fixed length are refused. -/
def getText (snapshot : Snapshot) (index : Nat) : Except Failure String :=
  match snapshot.value index with
  | .error failure => .error failure
  | .ok (.binary bytes) =>
      match bytes.text? with
      | some text => .ok text
      | none => .error (.invalidUtf8 index)
  | .ok value => .error (.typeMismatch index .binary value.physicalType)

/-- Whether both hold equal values at the same positions, floating-point numbers by IEEE
equality. -/
def equals (left right : Snapshot) : Bool :=
  left.values.length == right.values.length &&
    (left.values.zip right.values).all fun pair => pair.1.equals pair.2

end Snapshot

end RowSieve
