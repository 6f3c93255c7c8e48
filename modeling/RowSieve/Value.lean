/-!
# Values and their types

A column declares a physical type and holds values of it.  Two notions of sameness are kept apart:
equality of `Value`, which is equality of tag and payload bit by bit, and `Value.equals`, which
compares floating-point payloads as IEEE numbers.
-/

namespace RowSieve

/-!
## Physical types

The primitive types a column can declare for its values, their place among the primitive types of a
Parquet file, and which of them a reader may be asked for.
-/

/-- A primitive type of a Parquet file. -/
inductive ParquetType
  | boolean
  | int32
  | int64
  | int96
  | float
  | double
  | byteArray
  | fixedLenByteArray
  deriving DecidableEq

/-- A primitive type of column values. -/
inductive PhysicalType
  | int32
  | int64
  | boolean
  | binary
  | float
  | double
  | fixedLenByteArray
  deriving DecidableEq

namespace ParquetType

def name : ParquetType → String
  | .boolean => "BOOLEAN"
  | .int32 => "INT32"
  | .int64 => "INT64"
  | .int96 => "INT96"
  | .float => "FLOAT"
  | .double => "DOUBLE"
  | .byteArray => "BYTE_ARRAY"
  | .fixedLenByteArray => "FIXED_LEN_BYTE_ARRAY"

/-- The physical type of the same values; the 96-bit integers have none. -/
def physical? : ParquetType → Option PhysicalType
  | .boolean => some .boolean
  | .int32 => some .int32
  | .int64 => some .int64
  | .int96 => none
  | .float => some .float
  | .double => some .double
  | .byteArray => some .binary
  | .fixedLenByteArray => some .fixedLenByteArray

end ParquetType

namespace PhysicalType

def name : PhysicalType → String
  | .int32 => "INT32"
  | .int64 => "INT64"
  | .boolean => "BOOLEAN"
  | .binary => "BINARY"
  | .float => "FLOAT"
  | .double => "DOUBLE"
  | .fixedLenByteArray => "FIXED_LEN_BYTE_ARRAY"

def isBinaryLike : PhysicalType → Bool
  | .binary | .fixedLenByteArray => true
  | _ => false

def parquet : PhysicalType → ParquetType
  | .boolean => .boolean
  | .int32 => .int32
  | .int64 => .int64
  | .float => .float
  | .double => .double
  | .binary => .byteArray
  | .fixedLenByteArray => .fixedLenByteArray

/-- A column may be read as its declared type, and as bytes if it declares byte sequences. -/
def readableAs (declared requested : PhysicalType) : Bool :=
  requested == declared || (requested == .binary && declared.isBinaryLike)

end PhysicalType

/-!
## Floating-point numbers by their bits

A binary interchange format has a sign bit, an exponent field and a fraction field.  Numbers are
kept as bit patterns, so that two equal patterns are the same value and a pattern survives reading
and writing.  The comparisons `equals` and `precedes` are those of IEEE 754: they go by `rank`, the
signed magnitude, for which both zeros are `0`, and no NaN takes part in them.
-/

/-- The widths of a binary interchange format. -/
structure FloatFormat where
  width : Nat
  fractionWidth : Nat

namespace FloatFormat

def binary32 : FloatFormat := ⟨32, 23⟩

def binary64 : FloatFormat := ⟨64, 52⟩

def signWeight (format : FloatFormat) : Nat :=
  Nat.pow 2 (format.width - 1)

/-- The magnitude of the infinities: all exponent bits and no fraction bit. -/
def infinity (format : FloatFormat) : Nat :=
  format.signWeight - Nat.pow 2 format.fractionWidth

end FloatFormat

/-- A number of a format, as its bit pattern. -/
structure IeeeFloat (format : FloatFormat) where
  bits : BitVec format.width
  deriving DecidableEq

abbrev Binary32 := IeeeFloat .binary32

abbrev Binary64 := IeeeFloat .binary64

namespace IeeeFloat

variable {format : FloatFormat}

/-- The bits below the sign, read as a number. -/
def magnitude (x : IeeeFloat format) : Nat :=
  x.bits.toNat % format.signWeight

def isNegative (x : IeeeFloat format) : Bool :=
  format.signWeight ≤ x.bits.toNat

/-- Whether the pattern lies beyond the infinities. -/
def isNaN (x : IeeeFloat format) : Bool :=
  format.infinity < x.magnitude

/-- The signed magnitude, which orders the numbers that are not NaN. -/
def rank (x : IeeeFloat format) : Int :=
  if x.isNegative then -(x.magnitude : Int) else x.magnitude

/-- IEEE equality: a NaN equals nothing, and the two zeros are equal. -/
def equals (x y : IeeeFloat format) : Bool :=
  !x.isNaN && !y.isNaN && x.rank == y.rank

/-- IEEE order: a NaN precedes nothing and follows nothing. -/
def precedes (x y : IeeeFloat format) : Bool :=
  !x.isNaN && !y.isNaN && x.rank < y.rank

end IeeeFloat

/-!
## Values
-/

abbrev Bytes := List UInt8

/-- A value tagged with its physical type. -/
inductive Value
  | int32 (value : Int32)
  | int64 (value : Int64)
  | boolean (value : Bool)
  | binary (bytes : Bytes)
  | float (value : Binary32)
  | double (value : Binary64)
  | fixedLenByteArray (bytes : Bytes)
  deriving DecidableEq

namespace Bytes

/-- Lexicographic order; a proper initial part comes first. -/
def precedes : Bytes → Bytes → Bool
  | _, [] => false
  | [], _ :: _ => true
  | x :: xs, y :: ys => x < y || (x == y && precedes xs ys)

def ofText (text : String) : Bytes :=
  text.toUTF8.data.toList

/-- The text that the bytes encode in UTF-8, if they encode one. -/
def text? (bytes : Bytes) : Option String :=
  String.fromUTF8? ⟨bytes.toArray⟩

/-- Decoding is exactly the inverse of encoding: bytes that encode no text are refused. -/
theorem text?_eq_some_iff {bytes : Bytes} {text : String} :
    text? bytes = some text ↔ bytes = ofText text := by
  constructor
  · intro h
    simp only [text?, String.fromUTF8?] at h
    split at h
    · injection h with h
      subst h
      rfl
    · simp at h
  · rintro rfl
    have valid : (⟨(ofText text).toArray⟩ : ByteArray).IsValidUTF8 := text.isValidUTF8
    simp only [text?, String.fromUTF8?, dif_pos valid]
    rfl

end Bytes

namespace Value

def physicalType : Value → PhysicalType
  | .int32 _ => .int32
  | .int64 _ => .int64
  | .boolean _ => .boolean
  | .binary _ => .binary
  | .float _ => .float
  | .double _ => .double
  | .fixedLenByteArray _ => .fixedLenByteArray

/-- Same tag and equal payload, floating-point payloads by IEEE equality. -/
def equals : Value → Value → Bool
  | .int32 x, .int32 y => x == y
  | .int64 x, .int64 y => x == y
  | .boolean x, .boolean y => x == y
  | .binary x, .binary y => x == y
  | .float x, .float y => x.equals y
  | .double x, .double y => x.equals y
  | .fixedLenByteArray x, .fixedLenByteArray y => x == y
  | _, _ => false

/-- Same tag and smaller payload: numbers by size, `false` before `true`, bytes
lexicographically. -/
def precedes : Value → Value → Bool
  | .int32 x, .int32 y => x < y
  | .int64 x, .int64 y => x < y
  | .boolean x, .boolean y => !x && y
  | .binary x, .binary y => x.precedes y
  | .float x, .float y => x.precedes y
  | .double x, .double y => x.precedes y
  | .fixedLenByteArray x, .fixedLenByteArray y => x.precedes y
  | _, _ => false

end Value

end RowSieve
