import RowSieve.ColumnPath
import RowSieve.Value

/-!
# Readings

A reading is what a column shows at its current row: its path, its declared type, whether the row is
null there, and the answer of each of the six accessors.  Predicates see nothing else of a column.
Readings are generic in what an accessor reports when it fails.
-/

namespace RowSieve

/-- The ways to ask a column for its current value. -/
inductive Accessor
  | integer
  | long
  | boolean
  | binary
  | float
  | double
  deriving DecidableEq

namespace Accessor

abbrev Payload : Accessor → Type
  | .integer => Int32
  | .long => Int64
  | .boolean => Bool
  | .binary => Bytes
  | .float => Binary32
  | .double => Binary64

/-- The type that the accessor asks a column for. -/
def requested : Accessor → PhysicalType
  | .integer => .int32
  | .long => .int64
  | .boolean => .boolean
  | .binary => .binary
  | .float => .float
  | .double => .double

/-- The payload of a value that the accessor gives; `binary` gives bytes of either type. -/
def payload? : (accessor : Accessor) → Value → Option accessor.Payload
  | .integer, .int32 value => some value
  | .long, .int64 value => some value
  | .boolean, .boolean value => some value
  | .binary, .binary bytes => some bytes
  | .binary, .fixedLenByteArray bytes => some bytes
  | .float, .float value => some value
  | .double, .double value => some value
  | _, _ => none

end Accessor

namespace PhysicalType

def accessor : PhysicalType → Accessor
  | .int32 => .integer
  | .int64 => .long
  | .boolean => .boolean
  | .binary | .fixedLenByteArray => .binary
  | .float => .float
  | .double => .double

def tag : (type : PhysicalType) → type.accessor.Payload → Value
  | .int32, value => .int32 value
  | .int64, value => .int64 value
  | .boolean, value => .boolean value
  | .binary, bytes => .binary bytes
  | .float, value => .float value
  | .double, value => .double value
  | .fixedLenByteArray, bytes => .fixedLenByteArray bytes

@[simp] theorem physicalType_tag (type : PhysicalType) (payload : type.accessor.Payload) :
    (type.tag payload).physicalType = type := by
  cases type <;> rfl

theorem payload?_tag (type : PhysicalType) (payload : type.accessor.Payload) :
    type.accessor.payload? (type.tag payload) = some payload := by
  cases type <;> rfl

end PhysicalType

/-- What a column shows at its current row. -/
structure Reading (ε : Type) where
  path : ColumnPath
  declared : PhysicalType
  isNull : Bool
  get : (accessor : Accessor) → Except ε accessor.Payload

namespace Reading

variable {ε δ : Type}

def read (reading : Reading ε) (type : PhysicalType) : Except ε Value :=
  (reading.get type.accessor).map type.tag

/-- The same reading with its failures described by `describe`. -/
def mapFailure (describe : ε → δ) (reading : Reading ε) : Reading δ where
  path := reading.path
  declared := reading.declared
  isNull := reading.isNull
  get accessor := (reading.get accessor).mapError describe

theorem physicalType_of_read {reading : Reading ε} {type : PhysicalType} {value : Value}
    (h : reading.read type = .ok value) : value.physicalType = type := by
  simp only [read] at h
  cases answer : reading.get type.accessor with
  | error failure => simp [answer, Except.map] at h
  | ok payload =>
      simp only [answer, Except.map, Except.ok.injEq] at h
      simp [← h]

/-- Reads every reading under its tag, up to the earliest that fails. -/
def readAll : List (Reading ε × PhysicalType) → Except ε (List Value)
  | [] => .ok []
  | (reading, type) :: rest =>
      match reading.read type with
      | .error failure => .error failure
      | .ok value => (readAll rest).map (value :: ·)

end Reading

end RowSieve
