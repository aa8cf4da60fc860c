import Mathlib.Algebra.Group.Int.Defs
import SqlTemplate.Value.Sending

/-!
This file says what a column receives when a value is sent to it through a client library that follows the binary
format. The value is read back from its bytes, or nothing is written.
-/

namespace SqlTemplate

namespace Binary

/-- A whole number is at least the least one with so many bytes in two's complement and at most the greatest. -/
def InRange (count : Nat) (number : Int) : Prop :=
  -(2 ^ (8 * count - 1)) ≤ number ∧ number < 2 ^ (8 * count - 1)

theorem fitsBytes_succ_iff (count : Nat) (number : Int) :
    fitsBytes (count + 1) number = true ↔ InRange (count + 1) number := by
  have half : Int.ofNat (byteRange (count + 1)) = 2 * 2 ^ (8 * (count + 1) - 1) := by
    have bits : 8 * (count + 1) = 8 * (count + 1) - 1 + 1 := by omega
    have range : byteRange (count + 1) = 2 * 2 ^ (8 * (count + 1) - 1) := by
      calc byteRange (count + 1) = (2 ^ 8) ^ (count + 1) := rfl
        _ = 2 ^ (8 * (count + 1)) := (Nat.pow_mul 2 8 (count + 1)).symm
        _ = 2 ^ (8 * (count + 1) - 1 + 1) := congrArg (2 ^ ·) bits
        _ = 2 * 2 ^ (8 * (count + 1) - 1) := by rw [Nat.pow_succ, Nat.mul_comm]
    rw [range]
    simp
  rw [fitsBytes, half, Bool.and_eq_true, decide_eq_true_eq, decide_eq_true_eq, InRange]
  constructor <;> intro bounds <;> omega

end Binary

namespace ColumnType

/-- A width of integer columns is a number of bytes that is not zero. -/
theorem fitsBytes_iff {column : ColumnType} {width : Nat} (wide : column.integerWidth? = some width)
    (number : Int) : Binary.fitsBytes width number = true ↔ Binary.InRange width number := by
  cases width with
  | zero => cases column <;> cases wide
  | succ width => exact Binary.fitsBytes_succ_iff width number

end ColumnType

variable {Content : Type}

namespace Sent

/-- What a call on the buffer comes to when the column receives the encoded value. -/
def of (buffer : List UInt8) : Except EncodingFault Encoded → Sent
  | .ok .null => ⟨.ok .null, buffer⟩
  | .ok (.bytes content) => ⟨.ok .present, buffer ++ content⟩
  | .error fault => ⟨.error fault, buffer⟩

variable {buffer : List UInt8} {encoded : Except EncodingFault Encoded}

theorem outcome_of_eq_null_iff : (of buffer encoded).outcome = .ok .null ↔ encoded = .ok .null := by
  rcases encoded with fault | (_ | content) <;> simp [of]

theorem outcome_of_eq_error_iff (fault : EncodingFault) :
    (of buffer encoded).outcome = .error fault ↔ encoded = .error fault := by
  rcases encoded with cause | (_ | content) <;> simp [of]

/-- Only bytes that are sent change the buffer. -/
theorem buffer_of (absent : (of buffer encoded).outcome ≠ .ok .present) :
    (of buffer encoded).buffer = buffer := by
  rcases encoded with fault | (_ | content)
  · rfl
  · rfl
  · exact absurd rfl absent

end Sent

namespace WireFormat

variable (format : WireFormat Content)

/-- What a column receives in the format. -/
def encode (column : ColumnType) (content : Content) : Except EncodingFault Encoded :=
  match format column with
  | some bytes => .ok (.bytes (bytes content))
  | none => .error .wrongType

theorem encode_only (home column : ColumnType) (bytes : Content → List UInt8) (content : Content) :
    (only home bytes).encode column content = Value.encodeIf (column = home) (bytes content) := by
  by_cases same : column = home <;> simp [encode, only, Value.encodeIf, same]

end WireFormat

/-- The encoder is made for the columns of the format, and appends the bytes of the format for them. -/
structure Encoder.Follows (encoder : Encoder Content) (format : WireFormat Content) : Prop where
  accepts : ∀ column, encoder.accepts column = (format column).isSome
  sends : ∀ {column bytes}, format column = some bytes → ∀ content buffer,
    (encoder.send column content).onto buffer = ⟨.ok .present, buffer ++ bytes content⟩

/-- A checked call comes to what the column receives in the format. -/
theorem Encoder.Follows.onto_sendChecked {encoder : Encoder Content} {format : WireFormat Content}
    (follows : encoder.Follows format) (column : ColumnType) (content : Content)
    (buffer : List UInt8) :
    (encoder.sendChecked column content).onto buffer =
      Sent.of buffer (format.encode column content) := by
  rw [sendChecked, follows.accepts, WireFormat.encode]
  cases written : format column with
  | none => rfl
  | some bytes => exact follows.sends written content buffer

theorem WireFormat.follows_encoder (format : WireFormat Content) :
    format.encoder.Follows format where
  accepts _ := rfl
  sends := by
    intro column bytes written content buffer
    rw [WireFormat.encoder]
    simp only [written]
    rfl

/-- Each encoder of the library follows the binary format for its contents. -/
structure ClientLibrary.Documented (library : ClientLibrary) : Prop where
  boolean : library.boolean.Follows .boolean
  smallInteger : library.smallInteger.Follows (.integer 2)
  mediumInteger : library.mediumInteger.Follows (.integer 4)
  largeInteger : library.largeInteger.Follows (.integer 8)
  single : library.single.Follows .single
  double : library.double.Follows .double
  text : library.text.Follows .text
  bytes : library.bytes.Follows .bytes
  localTime : library.localTime.Follows (.instant .timestamp)
  zonedTime : library.zonedTime.Follows (.instant .timestamptz)

theorem ClientLibrary.documented_standard : ClientLibrary.standard.Documented where
  boolean := WireFormat.follows_encoder _
  smallInteger := WireFormat.follows_encoder _
  mediumInteger := WireFormat.follows_encoder _
  largeInteger := WireFormat.follows_encoder _
  single := WireFormat.follows_encoder _
  double := WireFormat.follows_encoder _
  text := WireFormat.follows_encoder _
  bytes := WireFormat.follows_encoder _
  localTime := WireFormat.follows_encoder _
  zonedTime := WireFormat.follows_encoder _

namespace Value

/-- The value is encoded for a column of any type, also for one that an extension brings. -/
def encodeFor (column : ColumnType) : Value → Except EncodingFault Encoded
  | .text content => WireFormat.text.encode column content
  | value => value.encode column

/-- Apart from the types of extensions, this is how the value is encoded. -/
theorem encodeFor_eq_encode {column : ColumnType} (builtIn : column.extensionMark? = none)
    (value : Value) : value.encodeFor column = value.encode column := by
  cases value with
  | text content =>
      cases textual : column.isTextual <;>
        simp [encodeFor, WireFormat.encode, WireFormat.text, ColumnType.textMark?, encode, encodeIf,
          textual, builtIn]
  | _ => rfl

section Library

variable {library : ClientLibrary} (documented : library.Documented)

/-- An integer is narrowed before the encoder of the width is called. -/
theorem onto_narrow {width : Nat} {encoder : Encoder (Binary.Word width)}
    (follows : encoder.Follows (.integer width)) {column : ColumnType}
    (wide : column.integerWidth? = some width) (number : Int64) (buffer : List UInt8) :
    Sending.onto (do encoder.sendChecked column (← narrow width number)) buffer =
      Sent.of buffer (encode column (.integer number)) := by
  have encoded : encode column (.integer number) =
      if Binary.fitsBytes width number.toInt then
        .ok (.bytes (Binary.integerBytes width number.toInt))
      else .error .outOfRange := by
    rw [encode, wide]
  by_cases fits : Binary.fitsBytes width number.toInt = true
  · have sent := follows.onto_sendChecked column ⟨number.toInt, fits⟩ buffer
    rw [WireFormat.encode, WireFormat.integer, if_pos wide] at sent
    rw [encoded, if_pos fits, narrow, dif_pos fits]
    exact sent
  · rw [encoded, if_neg fits, narrow, dif_neg fits]
    rfl

/-- In a column that is not narrow, an integer is a word of 64 bits or has no place. -/
theorem encode_ofInt64 {column : ColumnType}
    (notNarrow : column.integerWidth? = none ∨ column.integerWidth? = some 8) (number : Int64) :
    (WireFormat.integer 8).encode column (.ofInt64 number) = encode column (.integer number) := by
  rcases notNarrow with none | wide
  · simp [WireFormat.encode, WireFormat.integer, encode, none]
  · have fits := (Binary.Word.ofInt64 number).fits
    rw [WireFormat.encode, WireFormat.integer, if_pos wide, encode, wide]
    exact (if_pos fits).symm

include documented

theorem onto_sendChecked_integer (column : ColumnType) (number : Int64) (buffer : List UInt8) :
    ((encoder library).sendChecked column (.integer number)).onto buffer =
      Sent.of buffer (encode column (.integer number)) := by
  have large (notNarrow : column.integerWidth? = none ∨ column.integerWidth? = some 8) :
      (library.largeInteger.sendChecked column (.ofInt64 number)).onto buffer =
        Sent.of buffer (encode column (.integer number)) := by
    rw [documented.largeInteger.onto_sendChecked, encode_ofInt64 notNarrow]
  cases column with
  | int2 => exact onto_narrow documented.smallInteger rfl number buffer
  | int4 => exact onto_narrow documented.mediumInteger rfl number buffer
  | int8 => exact large (.inr rfl)
  | _ => exact large (.inl rfl)

theorem onto_sendChecked_float (column : ColumnType) (pattern : UInt64) (buffer : List UInt8) :
    ((encoder library).sendChecked column (.float pattern)).onto buffer =
      Sent.of buffer (encode column (.float pattern)) := by
  have double (notNarrow : column ≠ .float4) :
      (library.double.sendChecked column pattern).onto buffer =
        Sent.of buffer (encode column (.float pattern)) := by
    rw [documented.double.onto_sendChecked, WireFormat.double, WireFormat.encode_only]
    cases column <;> first | rfl | exact absurd rfl notNarrow
  cases column with
  | float4 =>
      have rounded := documented.single.onto_sendChecked .float4
        (UInt32.ofNat (Binary.Format.double.convert .single pattern.toNat)) buffer
      have whole : Binary.byteRange 4 ∣ 2 ^ 32 := Nat.dvd_refl _
      rw [WireFormat.single, WireFormat.encode_only, UInt32.toNat_ofNat',
        Binary.naturalBytes_mod_of_dvd whole] at rounded
      exact rounded
  | _ => exact double nofun

theorem onto_sendChecked_instant (column : ColumnType) (time : Instant) (buffer : List UInt8) :
    ((encoder library).sendChecked column (.instant time)).onto buffer =
      Sent.of buffer (encode column (.instant time)) := by
  cases column with
  | timestamp =>
      have sent := documented.localTime.onto_sendChecked .timestamp time buffer
      rwa [WireFormat.instant, WireFormat.encode_only] at sent
  | _ =>
      refine (documented.zonedTime.onto_sendChecked _ time buffer).trans ?_
      rw [WireFormat.instant, WireFormat.encode_only]
      rfl

/-- Sending a value comes to what the column receives of it. -/
theorem onto_sendChecked (column : ColumnType) (value : Value) (buffer : List UInt8) :
    ((encoder library).sendChecked column value).onto buffer =
      Sent.of buffer (value.encodeFor column) := by
  cases value with
  | null => rfl
  | boolean truth =>
      refine (documented.boolean.onto_sendChecked column truth buffer).trans ?_
      rw [WireFormat.boolean, WireFormat.encode_only]
      rfl
  | integer number => exact onto_sendChecked_integer documented column number buffer
  | float pattern => exact onto_sendChecked_float documented column pattern buffer
  | text content => exact documented.text.onto_sendChecked column content buffer
  | bytes content =>
      refine (documented.bytes.onto_sendChecked column content buffer).trans ?_
      rw [WireFormat.bytes, WireFormat.encode_only]
      rfl
  | instant time => exact onto_sendChecked_instant documented column time buffer

end Library

end Value

end SqlTemplate
