import SqlTemplate.Value.Column

/-!
This file sends a value to a column. A client library has an encoder for each type of contents,
which appends to a buffer. A value hands its content to the encoder of its kind, and narrows a number
before that when the column is narrow.
-/

namespace SqlTemplate

/-- What was sent is the mark for null, or the bytes in the buffer. -/
inductive Presence where
  | null
  | present
  deriving DecidableEq, Repr

/-- A step of a call that sends. It keeps what it wrote to the buffer when it fails. -/
abbrev Sending (Result : Type) := ExceptT EncodingFault (StateM (List UInt8)) Result

/-- The outcome of a call and the buffer that it leaves. -/
structure Sent where
  outcome : Except EncodingFault Presence
  buffer : List UInt8

/-- The call on a buffer. -/
def Sending.onto (sending : Sending Presence) (buffer : List UInt8) : Sent :=
  let (outcome, left) := sending.run.run buffer
  ⟨outcome, left⟩

variable {Content : Type}

/-- An encoder is made for some columns and says what it does for those. -/
structure Encoder (Content : Type) where
  accepts : ColumnType → Bool
  send : ColumnType → Content → Sending Presence

namespace Encoder

/-- A column that the encoder is not made for is refused. -/
def sendChecked (encoder : Encoder Content) (column : ColumnType) (content : Content) :
    Sending Presence :=
  if encoder.accepts column then encoder.send column content else throw .wrongType

end Encoder

/-- The encoders of a client library. -/
structure ClientLibrary where
  boolean : Encoder Bool
  smallInteger : Encoder (Binary.Word 2)
  mediumInteger : Encoder (Binary.Word 4)
  largeInteger : Encoder (Binary.Word 8)
  single : Encoder UInt32
  double : Encoder UInt64
  text : Encoder String
  bytes : Encoder (List UInt8)
  localTime : Encoder Instant
  zonedTime : Encoder Instant

namespace Value

/-- A number that the width cannot hold is refused. -/
def narrow (width : Nat) (number : Int64) : Sending (Binary.Word width) :=
  if fits : Binary.fitsBytes width number.toInt = true then pure ⟨number.toInt, fits⟩
  else throw .outOfRange

/-- The encoder of values leaves it to the encoder of the content whether it is made for the
column. -/
def encoder (library : ClientLibrary) : Encoder Value where
  accepts _ := true
  send column
    | .null => return .null
    | .boolean truth => library.boolean.sendChecked column truth
    | .integer number => do
        match column with
        | .int2 => library.smallInteger.sendChecked column (← narrow 2 number)
        | .int4 => library.mediumInteger.sendChecked column (← narrow 4 number)
        | _ => library.largeInteger.sendChecked column (.ofInt64 number)
    | .float pattern =>
        match column with
        | .float4 =>
            let rounded := Binary.Format.double.convert .single pattern.toNat
            library.single.sendChecked column (UInt32.ofNat rounded)
        | _ => library.double.sendChecked column pattern
    | .text content => library.text.sendChecked column content
    | .bytes content => library.bytes.sendChecked column content
    | .instant time =>
        match column with
        | .timestamp => library.localTime.sendChecked column time
        | _ => library.zonedTime.sendChecked column time

end Value

namespace ColumnType

/-- The text types that extensions bring, with what stands before a text there. -/
def extensionMark? : ColumnType → Option (List UInt8)
  | .other "citext" => some []
  | .other "ltree" | .other "lquery" | .other "ltxtquery" => some [1]
  | _ => none

/-- What stands before a text in a column that holds text. -/
def textMark? (column : ColumnType) : Option (List UInt8) :=
  if column.isTextual then some [] else column.extensionMark?

end ColumnType

/-- For each column that contents are written to, their bytes in the binary format. -/
abbrev WireFormat (Content : Type) := ColumnType → Option (Content → List UInt8)

namespace WireFormat

/-- The contents are written to columns of one type only. -/
def only (home : ColumnType) (bytes : Content → List UInt8) : WireFormat Content :=
  fun column => if column = home then some bytes else none

/-- A truth value is one byte. -/
def boolean : WireFormat Bool := only .bool fun truth => [if truth then 1 else 0]

/-- A number is written to the columns of its width. -/
def integer (width : Nat) : WireFormat (Binary.Word width) := fun column =>
  if column.integerWidth? = some width then
    some fun word => Binary.integerBytes width word.number
  else none

/-- A floating-point number with 32 bits is its pattern. -/
def single : WireFormat UInt32 := only .float4 fun pattern => Binary.naturalBytes 4 pattern.toNat

/-- A floating-point number with 64 bits is its pattern. -/
def double : WireFormat UInt64 := only .float8 fun pattern => Binary.naturalBytes 8 pattern.toNat

/-- A text is written in UTF-8, behind the mark of the column. -/
def text : WireFormat String := fun column =>
  column.textMark?.map fun mark content => mark ++ content.toUTF8.toList

/-- Bytes are written as they are. -/
def bytes : WireFormat (List UInt8) := only .bytea id

/-- A point in time is a count of microseconds. -/
def instant (home : ColumnType) : WireFormat Instant :=
  only home fun time => Binary.integerBytes 8 time.microsecondsFromMillennium

/-- The encoder that follows the format. -/
def encoder (format : WireFormat Content) : Encoder Content where
  accepts column := (format column).isSome
  send column content :=
    match format column with
    | some bytes => do
        modify (· ++ bytes content)
        return .present
    | none => throw .wrongType

end WireFormat

/-- The encoders that follow the binary format of PostgreSQL. -/
def ClientLibrary.standard : ClientLibrary where
  boolean := WireFormat.boolean.encoder
  smallInteger := (WireFormat.integer 2).encoder
  mediumInteger := (WireFormat.integer 4).encoder
  largeInteger := (WireFormat.integer 8).encoder
  single := WireFormat.single.encoder
  double := WireFormat.double.encoder
  text := WireFormat.text.encoder
  bytes := WireFormat.bytes.encoder
  localTime := (WireFormat.instant .timestamp).encoder
  zonedTime := (WireFormat.instant .timestamptz).encoder

end SqlTemplate
