import RowSieve.Text
import RowSieve.Value

/-!
# Leaf types

The types of the arrays that hold values rather than fields: what one slot of each holds, which of
them can be read as a physical type and how, and the texts that name them.
-/

namespace RowSieve

inductive LeafType
  | int8
  | int16
  | int32
  | int64
  | uint8
  | uint16
  | uint32
  | uint64
  | boolean
  | float32
  | float64
  | utf8
  | largeUtf8
  | binary
  | largeBinary
  | fixedSizeBinary (width : Nat)
  | date32
  | timestampMillisecond
  | utf8View
  | binaryView
  /-- Strings kept once each and referred to by 32-bit keys. -/
  | dictionary
  /-- Lists of 32-bit integers. -/
  | list
  | null
  /-- Any other type that cannot be read, known by the text that names it. -/
  | other (text : String)
  deriving DecidableEq

namespace LeafType

/-- What one slot holds; of a type that is known by its text alone, the bytes that are kept. -/
abbrev Slot : LeafType → Type
  | .int8 => Int8
  | .int16 => Int16
  | .int32 | .date32 => Int32
  | .int64 | .timestampMillisecond => Int64
  | .uint8 => UInt8
  | .uint16 => UInt16
  | .uint32 => UInt32
  | .uint64 => UInt64
  | .boolean => Bool
  | .float32 => Binary32
  | .float64 => Binary64
  | .utf8 | .largeUtf8 | .utf8View | .dictionary => String
  | .binary | .largeBinary | .fixedSizeBinary _ | .binaryView | .other _ => Bytes
  | .list => List (Option Int32)
  | .null => Unit

/-- What lies in a slot to which no value was given, where nobody sees it. -/
def filler : (type : LeafType) → type.Slot
  | .int8 | .int16 | .int32 | .date32 | .int64 | .timestampMillisecond => 0
  | .uint8 | .uint16 | .uint32 | .uint64 => 0
  | .boolean => false
  | .float32 | .float64 => ⟨0⟩
  | .utf8 | .largeUtf8 | .utf8View | .dictionary => ""
  | .binary | .largeBinary | .fixedSizeBinary _ | .binaryView | .other _ => []
  | .list => []
  | .null => ()

/-- The physical type that an array is read as, if it has one. -/
def physicalType? : LeafType → Option PhysicalType
  | .int32 => some .int32
  | .int64 => some .int64
  | .boolean => some .boolean
  | .float32 => some .float
  | .float64 => some .double
  | .utf8 | .largeUtf8 | .binary | .largeBinary => some .binary
  | .fixedSizeBinary _ => some .fixedLenByteArray
  | _ => none

/-- The value in a slot of a type that can be read; texts are read as their UTF-8 bytes. -/
def value? : (type : LeafType) → type.Slot → Option Value
  | .int32, value => some (.int32 value)
  | .int64, value => some (.int64 value)
  | .boolean, value => some (.boolean value)
  | .float32, value => some (.float value)
  | .float64, value => some (.double value)
  | .utf8, text | .largeUtf8, text => some (.binary (.ofText text))
  | .binary, bytes | .largeBinary, bytes => some (.binary bytes)
  | .fixedSizeBinary _, bytes => some (.fixedLenByteArray bytes)
  | _, _ => none

theorem value?_isSome {type : LeafType} {physical : PhysicalType}
    (h : type.physicalType? = some physical) (slot : type.Slot) :
    ∃ value, type.value? slot = some value ∧ value.physicalType = physical := by
  cases type <;> simp only [physicalType?, Option.some.injEq, reduceCtorEq] at h <;>
    subst h <;> exact ⟨_, rfl, rfl⟩

/-! ## Texts -/

/-- The text of a field whose type has the text `type`; fields are nullable and carry no
metadata. -/
def fieldText (name type : String) : String :=
  "Field \x7b name: " ++ Text.quoteString name ++ ", data_type: " ++ type ++
    ", nullable: true, dict_id: 0, dict_is_ordered: false, metadata: \x7b\x7d \x7d"

def text : LeafType → String
  | .int8 => "Int8"
  | .int16 => "Int16"
  | .int32 => "Int32"
  | .int64 => "Int64"
  | .uint8 => "UInt8"
  | .uint16 => "UInt16"
  | .uint32 => "UInt32"
  | .uint64 => "UInt64"
  | .boolean => "Boolean"
  | .float32 => "Float32"
  | .float64 => "Float64"
  | .utf8 => "Utf8"
  | .largeUtf8 => "LargeUtf8"
  | .binary => "Binary"
  | .largeBinary => "LargeBinary"
  | .fixedSizeBinary width => s!"FixedSizeBinary({width})"
  | .date32 => "Date32"
  | .timestampMillisecond => "Timestamp(Millisecond, None)"
  | .utf8View => "Utf8View"
  | .binaryView => "BinaryView"
  | .dictionary => "Dictionary(Int32, Utf8)"
  | .list => "List(" ++ fieldText "item" "Int32" ++ ")"
  | .null => "Null"
  | .other text => text

end LeafType

end RowSieve
