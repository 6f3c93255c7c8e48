import RowSieve.ColumnPath
import RowSieve.Value

/-!
# Failures

The causes for which defining, binding or evaluating a sieve can fail, what kind each is of, and the
message that reports it.
-/

namespace RowSieve

/-- Why an operation failed. -/
inductive Failure
  | nullArgument (name : String)
  | invalidArgument (message : String)
  /-- No column lies at a requested path; `path` is as the caller wrote it. -/
  | unresolvedColumn (path : String)
  /-- There are not as many types as readers to load. -/
  | lengthMismatch (readers types : Nat)
  /-- A loaded value is of another type than the one asked for. -/
  | typeMismatch (index : Nat) (expected actual : PhysicalType)
  | indexOutOfBounds (index length : Nat)
  /-- The loaded bytes at `index` are no UTF-8 text. -/
  | invalidUtf8 (index : Nat)
  /-- A column was asked for a type that it does not declare. -/
  | readerTypeMismatch (path : ColumnPath) (requested declared : PhysicalType)
  | nullValue (path : ColumnPath) (row : Nat)
  | rowOutOfBounds (path : ColumnPath) (row rows : Nat)
  | unsupportedPhysicalType (type : ParquetType)
  /-- A record batch could not be made. -/
  | arrow (message : String)
  deriving DecidableEq

namespace Failure

inductive Kind
  | nullArgument
  | invalidArgument
  | unresolvedColumn
  | lengthMismatch
  | typeMismatch
  | indexOutOfBounds
  | invalidUtf8
  | readerTypeMismatch
  | nullValue
  | rowOutOfBounds
  | unsupportedPhysicalType
  | arrow
  deriving DecidableEq

def kind : Failure → Kind
  | .nullArgument _ => .nullArgument
  | .invalidArgument _ => .invalidArgument
  | .unresolvedColumn _ => .unresolvedColumn
  | .lengthMismatch _ _ => .lengthMismatch
  | .typeMismatch _ _ _ => .typeMismatch
  | .indexOutOfBounds _ _ => .indexOutOfBounds
  | .invalidUtf8 _ => .invalidUtf8
  | .readerTypeMismatch _ _ _ => .readerTypeMismatch
  | .nullValue _ _ => .nullValue
  | .rowOutOfBounds _ _ _ => .rowOutOfBounds
  | .unsupportedPhysicalType _ => .unsupportedPhysicalType
  | .arrow _ => .arrow

def message : Failure → String
  | .nullArgument name => s!"{name} should not be null"
  | .invalidArgument message => s!"invalid argument: {message}"
  | .unresolvedColumn path => s!"column {path} does not exist"
  | .lengthMismatch readers types =>
      s!"argument lengths are not the same: {readers} readers, {types} types"
  | .typeMismatch index expected actual =>
      s!"field {index} is not {expected.name}: holds {actual.name}"
  | .indexOutOfBounds index length => s!"field {index} out of bounds (len={length})"
  | .invalidUtf8 index => s!"field {index} is not valid utf-8"
  | .readerTypeMismatch path requested declared =>
      s!"column {path.dotted} declares {declared.name}, cannot read {requested.name}"
  | .nullValue path row => s!"column {path.dotted} is null at row {row}"
  | .rowOutOfBounds path row rows =>
      s!"column {path.dotted} has no row {row} (num_rows={rows})"
  | .unsupportedPhysicalType type => s!"unsupported parquet physical type: {type.name}"
  | .arrow message => s!"arrow error: Invalid argument error: {message}"

/-! ## Checked arguments -/

/-- An argument that has to be given. -/
def require {α : Type} (name : String) : Option α → Except Failure α
  | some value => .ok value
  | none => .error (.nullArgument name)

/-- A condition that the arguments have to meet. -/
def check (valid : Bool) (message : String) : Except Failure Unit :=
  if valid then .ok () else .error (.invalidArgument message)

end Failure

namespace PhysicalType

/-- The physical type of a Parquet type, or the failure that it has none. -/
def ofParquet (type : ParquetType) : Except Failure PhysicalType :=
  match type.physical? with
  | some physical => .ok physical
  | none => .error (.unsupportedPhysicalType type)

end PhysicalType

end RowSieve
