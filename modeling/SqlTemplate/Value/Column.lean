import SqlTemplate.Binary.BigEndian
import SqlTemplate.Value.Basic

/-!
This file encodes a value in the binary format of a PostgreSQL column. A value fits the columns of
its own kind; an integer that is too large for its column is refused and never cut.
-/

namespace SqlTemplate

/-- The column types that some value fits, and all others by name. -/
inductive ColumnType where
  | bool
  | int2
  | int4
  | int8
  | float4
  | float8
  | text
  | varchar
  | bpchar
  | name
  | unknown
  | bytea
  | timestamp
  | timestamptz
  | other (name : String)
  deriving DecidableEq, Repr

namespace ColumnType

/-- The type with this name. -/
def ofName : String → ColumnType
  | "bool" => .bool
  | "int2" => .int2
  | "int4" => .int4
  | "int8" => .int8
  | "float4" => .float4
  | "float8" => .float8
  | "text" => .text
  | "varchar" => .varchar
  | "bpchar" => .bpchar
  | "name" => .name
  | "unknown" => .unknown
  | "bytea" => .bytea
  | "timestamp" => .timestamp
  | "timestamptz" => .timestamptz
  | unlisted => .other unlisted

/-- These columns hold text. -/
def isTextual : ColumnType → Bool
  | .text | .varchar | .bpchar | .name | .unknown => true
  | _ => false

/-- An integer column has this many bytes. -/
def integerWidth? : ColumnType → Option Nat
  | .int2 => some 2
  | .int4 => some 4
  | .int8 => some 8
  | _ => none

end ColumnType

/-- A column receives either the mark for null or bytes. -/
inductive Encoded where
  | null
  | bytes (content : List UInt8)
  deriving DecidableEq, Repr

/-- A value is refused because its kind does not fit the column or its number is out of range. -/
inductive EncodingFault where
  | wrongType
  | outOfRange
  deriving DecidableEq, Repr

namespace Value

/-- The bytes are sent when the value fits the column. -/
def encodeIf (fits : Bool) (content : List UInt8) : Except EncodingFault Encoded :=
  if fits then .ok (.bytes content) else .error .wrongType

/-- The value is encoded for a column of the given type. -/
def encode (column : ColumnType) : Value → Except EncodingFault Encoded
  | .null => .ok .null
  | .boolean truth => encodeIf (column = .bool) [if truth then 1 else 0]
  | .integer number =>
      match column.integerWidth? with
      | none => .error .wrongType
      | some width =>
          if Binary.fitsBytes width number.toInt then
            .ok (.bytes (Binary.integerBytes width number.toInt))
          else .error .outOfRange
  | .float pattern =>
      match column with
      | .float8 => .ok (.bytes (Binary.naturalBytes 8 pattern.toNat))
      | .float4 =>
          .ok (.bytes (Binary.naturalBytes 4 (Binary.Format.double.convert .single pattern.toNat)))
      | _ => .error .wrongType
  | .text content => encodeIf column.isTextual content.toUTF8.toList
  | .bytes content => encodeIf (column = .bytea) content
  | .instant time =>
      encodeIf (column = .timestamp || column = .timestamptz)
        (Binary.integerBytes 8 time.microsecondsFromMillennium)

/-- The null value is sent to every column. -/
theorem encode_null (column : ColumnType) : encode column .null = .ok .null := rfl

end Value

end SqlTemplate
