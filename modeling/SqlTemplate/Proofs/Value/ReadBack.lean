import SqlTemplate.Proofs.Value.Sending

/-!
This file reads values back from the bytes that a column received. A value that is sent is read back as it was,
unless the column rounds it, and a value that is refused leaves no bytes.
-/

namespace SqlTemplate

namespace Text

/-- The bytes of an array are listed from a place on. -/
theorem toList_loop (bytes : ByteArray) (place : Nat) (listed : List UInt8) :
    ByteArray.toList.loop bytes place listed = listed.reverse ++ bytes.data.toList.drop place := by
  fun_induction ByteArray.toList.loop bytes place listed with
  | case1 place listed inside inductionHypothesis =>
      have split := List.drop_eq_getElem_cons (l := bytes.data.toList) (i := place) inside
      rw [inductionHypothesis, split, List.reverse_cons, List.append_assoc, List.singleton_append,
        ByteArray.get!, getElem!_pos bytes.data place inside, Array.getElem_toList]
  | case2 place listed outside =>
      have none : bytes.data.toList.drop place = [] :=
        List.drop_eq_nil_of_le (Nat.le_of_not_lt outside)
      rw [none, List.append_nil]

/-- A text is read back from its bytes in UTF-8. -/
theorem fromUTF8?_toUTF8 (content : String) :
    String.fromUTF8? content.toUTF8.toList.toByteArray = some content := by
  have same : content.toUTF8.toList.toByteArray = content.toUTF8 := by
    apply ByteArray.ext
    rw [List.data_toByteArray, ByteArray.toList, toList_loop]
    simp
  have valid : content.toUTF8.IsValidUTF8 := content.isValidUTF8
  rw [same, String.fromUTF8?, dif_pos valid]
  rfl

end Text

namespace ColumnType

/-- A truth value is read from one byte. -/
def readTruth? : List UInt8 → Option Value
  | [0] => some (.boolean false)
  | [1] => some (.boolean true)
  | _ => none

/-- An integer is read from as many bytes as the column is wide. -/
def readInteger? (width : Nat) (written : List UInt8) : Option Value :=
  if written.length = width then some (.integer (Int64.ofInt (Binary.readIntegerBytes written)))
  else none

/-- A floating-point number with 64 bits is read from its pattern. -/
def readFloat? (written : List UInt8) : Option Value :=
  if written.length = 8 then some (.float (UInt64.ofNat (Binary.readNaturalBytes written)))
  else none

/-- A text is read from what stands behind the mark of the column. -/
def readText? (mark written : List UInt8) : Option Value :=
  if mark <+: written then
    (String.fromUTF8? (written.drop mark.length).toByteArray).map .text
  else none

/-- The value is read from the bytes in a column. -/
def read? (column : ColumnType) (written : List UInt8) : Option Value :=
  match column with
  | .bool => readTruth? written
  | .int2 => readInteger? 2 written
  | .int4 => readInteger? 4 written
  | .int8 => readInteger? 8 written
  | .float8 => readFloat? written
  | .bytea => some (.bytes written)
  | column => column.textMark?.bind fun mark => readText? mark written

variable {column : ColumnType}

theorem read?_integerBytes {width : Nat} {number : Int64}
    (wide : column.integerWidth? = some width)
    (fits : Binary.fitsBytes width number.toInt = true) :
    column.read? (Binary.integerBytes width number.toInt) = some (.integer number) := by
  have back : readInteger? width (Binary.integerBytes width number.toInt) =
      some (.integer number) := by
    rw [readInteger?, if_pos (Binary.length_integerBytes width _),
      Binary.readIntegerBytes_integerBytes fits, Int64.ofInt_toInt]
  cases column with
  | int2 | int4 | int8 =>
      cases wide
      exact back
  | _ => cases wide

theorem read?_naturalBytes (pattern : UInt64) :
    ColumnType.float8.read? (Binary.naturalBytes 8 pattern.toNat) = some (.float pattern) := by
  have whole : pattern.toNat % Binary.byteRange 8 = pattern.toNat :=
    Nat.mod_eq_of_lt pattern.toNat_lt
  rw [read?, readFloat?, if_pos (Binary.length_naturalBytes 8 _),
    Binary.readNaturalBytes_naturalBytes, whole, UInt64.ofNat_toNat]

theorem read?_text {mark : List UInt8} (marked : column.textMark? = some mark) (content : String) :
    column.read? (mark ++ content.toUTF8.toList) = some (.text content) := by
  have back : readText? mark (mark ++ content.toUTF8.toList) = some (.text content) := by
    rw [readText?, if_pos (List.prefix_append _ _), List.drop_left, Text.fromUTF8?_toUTF8,
      Option.map_some]
  have read : column.read? (mark ++ content.toUTF8.toList) =
      column.textMark?.bind fun mark' => readText? mark' (mark ++ content.toUTF8.toList) := by
    cases column <;> first | rfl | cases marked
  rw [read, marked, Option.bind_some, back]

end ColumnType

namespace Value

variable {column : ColumnType}

/-- The columns that hold values of this kind. -/
def fits (column : ColumnType) : Value → Bool
  | .null => true
  | .boolean _ => column = .bool
  | .integer _ => column.integerWidth?.isSome
  | .float _ => column = .float4 || column = .float8
  | .text _ => column.textMark?.isSome
  | .bytes _ => column = .bytea
  | .instant _ => column = .timestamp || column = .timestamptz

/-- Some values are not kept exactly: a narrow column rounds a floating-point number, and a point in time is
cut to microseconds. -/
def isRounded (column : ColumnType) : Value → Bool
  | .float _ => column = .float4
  | .instant _ => true
  | _ => false

/-- A column receives null, or refuses a kind that it does not hold or an integer out of range, or receives bytes
from which the value is read back. -/
inductive Received (column : ColumnType) : Value → Except EncodingFault Encoded → Prop where
  | null : Received column .null (.ok .null)
  | unfit {value : Value} (unfit : value.fits column = false) :
      Received column value (.error .wrongType)
  | outOfRange {number : Int64} {width : Nat} (wide : column.integerWidth? = some width)
      (outside : ¬ Binary.InRange width number.toInt) :
      Received column (.integer number) (.error .outOfRange)
  | integer {number : Int64} {width : Nat} (wide : column.integerWidth? = some width)
      (inside : Binary.InRange width number.toInt) :
      Received column (.integer number) (.ok (.bytes (Binary.integerBytes width number.toInt)))
  | bytes {value : Value} {content : List UInt8} (notNull : value ≠ .null)
      (notInteger : ∀ number, value ≠ .integer number) (fits : value.fits column = true)
      (kept : value.isRounded column = false → column.read? content = some value) :
      Received column value (.ok (.bytes content))

theorem received_encodeIf (value : Value) {fits : Bool} {content : List UInt8}
    (notNull : value ≠ .null) (notInteger : ∀ number, value ≠ .integer number)
    (sameFits : value.fits column = fits)
    (kept : fits = true → value.isRounded column = false → column.read? content = some value) :
    Received column value (encodeIf fits content) := by
  cases fits with
  | false => exact .unfit sameFits
  | true => exact .bytes notNull notInteger sameFits (kept rfl)

theorem received_integer (number : Int64) :
    Received column (.integer number) (encode column (.integer number)) := by
  cases wide : column.integerWidth? with
  | none =>
      have unfit : (Value.integer number).fits column = false := by simp [fits, wide]
      rw [encode, wide]
      exact .unfit unfit
  | some width =>
      rw [encode, wide]
      dsimp only
      split
      · rename_i fits
        exact .integer wide ((ColumnType.fitsBytes_iff wide _).mp fits)
      · rename_i misfit
        exact .outOfRange wide fun inside => misfit ((ColumnType.fitsBytes_iff wide _).mpr inside)

theorem received_float (pattern : UInt64) :
    Received column (.float pattern) (encode column (.float pattern)) := by
  cases column with
  | float8 => exact .bytes nofun nofun rfl fun _ => ColumnType.read?_naturalBytes pattern
  | float4 => exact .bytes nofun nofun rfl nofun
  | _ => exact .unfit rfl

theorem received_text (content : String) :
    Received column (.text content) (encodeFor column (.text content)) := by
  have notNull : Value.text content ≠ .null := by simp
  have notInteger (number : Int64) : Value.text content ≠ .integer number := by simp
  rw [encodeFor, WireFormat.encode, WireFormat.text]
  cases marked : column.textMark? with
  | none => exact .unfit (by simp [fits, marked])
  | some mark =>
      exact .bytes notNull notInteger (by simp [fits, marked]) fun _ =>
        ColumnType.read?_text marked content

/-- This is what a column receives of any value. -/
theorem received_encodeFor (column : ColumnType) (value : Value) :
    Received column value (value.encodeFor column) := by
  cases value with
  | null => exact .null
  | integer number => exact received_integer number
  | float pattern => exact received_float pattern
  | text content => exact received_text content
  | boolean truth =>
      apply received_encodeIf (.boolean truth) nofun nofun rfl
      intro isBool _
      rw [of_decide_eq_true isBool]
      cases truth <;> rfl
  | bytes content =>
      apply received_encodeIf (.bytes content) nofun nofun rfl
      intro isBytea _
      rw [of_decide_eq_true isBytea]
      rfl
  | instant time =>
      apply received_encodeIf (.instant time) nofun nofun rfl
      intro _ exact
      cases exact

theorem fits_integer {width : Nat} (wide : column.integerWidth? = some width) (number : Int64) :
    (Value.integer number).fits column = true := by
  simp [fits, wide]

namespace Received

variable {value : Value} {encoded : Except EncodingFault Encoded}

theorem null_iff (received : Received column value encoded) :
    encoded = .ok .null ↔ value = .null := by
  cases received with
  | null => simp
  | unfit unfit =>
      refine iff_of_false nofun ?_
      rintro rfl
      cases unfit
  | outOfRange => exact iff_of_false nofun nofun
  | integer => exact iff_of_false nofun nofun
  | bytes notNull => exact iff_of_false nofun notNull

theorem wrongType_iff (received : Received column value encoded) :
    encoded = .error .wrongType ↔ value.fits column = false := by
  cases received with
  | null => simp [fits]
  | unfit unfit => simp [unfit]
  | outOfRange wide => simp [fits_integer wide]
  | integer wide => simp [fits_integer wide]
  | bytes _ _ fits => simp [fits]

theorem outOfRange_iff (received : Received column value encoded) :
    encoded = .error .outOfRange ↔ ∃ number width, value = .integer number ∧
      column.integerWidth? = some width ∧ ¬ Binary.InRange width number.toInt := by
  cases received with
  | null => simp
  | unfit unfit =>
      refine iff_of_false nofun ?_
      rintro ⟨number, width, rfl, wide, -⟩
      rw [fits_integer wide] at unfit
      cases unfit
  | outOfRange wide outside => exact iff_of_true rfl ⟨_, _, rfl, wide, outside⟩
  | integer wide inside =>
      refine iff_of_false nofun ?_
      rintro ⟨number, width, same, alsoWide, outside⟩
      cases same
      cases wide.symm.trans alsoWide
      exact outside inside
  | bytes _ notInteger =>
      refine iff_of_false nofun ?_
      rintro ⟨number, width, same, -⟩
      exact notInteger number same

/-- An integer in the range of its column is received with the width of the column. -/
theorem eq_integerBytes {number : Int64} {width : Nat}
    (received : Received column (.integer number) encoded)
    (wide : column.integerWidth? = some width) (inside : Binary.InRange width number.toInt) :
    encoded = .ok (.bytes (Binary.integerBytes width number.toInt)) := by
  cases received with
  | unfit unfit =>
      rw [fits_integer wide] at unfit
      cases unfit
  | outOfRange alsoWide outside =>
      cases wide.symm.trans alsoWide
      exact absurd inside outside
  | integer alsoWide =>
      cases wide.symm.trans alsoWide
      rfl
  | bytes _ notInteger => exact absurd rfl (notInteger number)

/-- Any other value is received by a column that holds its kind, and is read back unless it is rounded. -/
theorem exists_bytes (received : Received column value encoded) (notNull : value ≠ .null)
    (notInteger : ∀ number, value ≠ .integer number) (fits : value.fits column = true) :
    ∃ written, encoded = .ok (.bytes written) ∧
      (value.isRounded column = false → column.read? written = some value) := by
  cases received with
  | null => exact absurd rfl notNull
  | unfit unfit =>
      rw [fits] at unfit
      cases unfit
  | outOfRange => exact absurd rfl (notInteger _)
  | integer => exact absurd rfl (notInteger _)
  | bytes _ _ _ kept => exact ⟨_, rfl, kept⟩

end Received

/-- What is sent is exact or refused. Null is sent to every column without bytes, and no other value is. A column of
another kind refuses the value, and an integer column refuses an integer that its width cannot hold; whatever is
refused leaves the buffer as it was. Any other integer is sent with the width of its column and is read back from
its bytes in two's complement, and so is every other value, apart from those that are rounded. On the types that are
not from an extension, this is how values are encoded. -/
theorem sent_of_value (library : ClientLibrary) (documented : library.Documented)
    (column : ColumnType) (value : Value) (buffer : List UInt8) :
    let sent := ((encoder library).sendChecked column value).onto buffer
    (sent.outcome = .ok .null ↔ value = .null) ∧
    (sent.outcome = .error .wrongType ↔ value ≠ .null ∧ value.fits column = false) ∧
    (sent.outcome = .error .outOfRange ↔ ∃ number width, value = .integer number ∧
      column.integerWidth? = some width ∧ ¬ Binary.InRange width number.toInt) ∧
    (sent.outcome ≠ .ok .present → sent.buffer = buffer) ∧
    (∀ number width, value = .integer number → column.integerWidth? = some width →
      Binary.InRange width number.toInt →
        ∃ written, sent = ⟨.ok .present, buffer ++ written⟩ ∧ written.length = width ∧
          Binary.readIntegerBytes written = number.toInt ∧ column.read? written = some value) ∧
    (value ≠ .null → (∀ number, value ≠ .integer number) → value.fits column = true →
      ∃ written, sent = ⟨.ok .present, buffer ++ written⟩ ∧
        (value.isRounded column = false → column.read? written = some value)) ∧
    (column.extensionMark? = none → sent = Sent.of buffer (value.encode column)) := by
  intro sent
  have same : sent = Sent.of buffer (value.encodeFor column) :=
    onto_sendChecked documented column value buffer
  have received := received_encodeFor column value
  rw [same]
  refine ⟨?_, ?_, ?_, Sent.buffer_of, ?_, ?_, ?_⟩
  · rw [Sent.outcome_of_eq_null_iff, received.null_iff]
  · rw [Sent.outcome_of_eq_error_iff, received.wrongType_iff]
    refine ⟨fun unfit => ⟨?_, unfit⟩, fun refused => refused.2⟩
    rintro rfl
    cases unfit
  · rw [Sent.outcome_of_eq_error_iff, received.outOfRange_iff]
  · rintro number width rfl wide inside
    have fits := (ColumnType.fitsBytes_iff wide number.toInt).mpr inside
    refine ⟨Binary.integerBytes width number.toInt, ?_, Binary.length_integerBytes width _,
      Binary.readIntegerBytes_integerBytes fits, ColumnType.read?_integerBytes wide fits⟩
    rw [received.eq_integerBytes wide inside, Sent.of]
  · intro notNull notInteger fits
    obtain ⟨written, encoded, kept⟩ := received.exists_bytes notNull notInteger fits
    refine ⟨written, ?_, kept⟩
    rw [encoded, Sent.of]
  · intro builtIn
    rw [encodeFor_eq_encode builtIn]

/-- The least number of a column with two bytes is sent behind what stands in the buffer. The next smaller one and a
text are refused there, and the column of an extension takes the text. -/
theorem sent_of_leastSmallInteger :
    let sent (column : ColumnType) (value : Value) :=
      ((encoder .standard).sendChecked column value).onto [7]
    ClientLibrary.standard.Documented ∧
      (∃ written, sent .int2 (.integer (-32768)) = ⟨.ok .present, 7 :: written⟩ ∧
        written.length = 2 ∧ Binary.readIntegerBytes written = -32768) ∧
      (sent .int2 (.integer (-32769))).outcome = .error .outOfRange ∧
      (sent .int2 (.integer (-32769))).buffer = [7] ∧
      (sent .int2 (.text "a.b")).outcome = .error .wrongType ∧
      ∃ written, sent (.other "ltree") (.text "a.b") = ⟨.ok .present, 7 :: written⟩ ∧
        (ColumnType.other "ltree").read? written = some (.text "a.b") := by
  intro sent
  have documented := ClientLibrary.documented_standard
  have result (column : ColumnType) (value : Value) :=
    sent_of_value .standard documented column value [7]
  have refused : (sent .int2 (.integer (-32769))).outcome = .error .outOfRange :=
    (result .int2 (.integer (-32769))).2.2.1.mpr
      ⟨-32769, 2, rfl, rfl, fun inside => absurd inside.1 (by decide)⟩
  have unchanged : (sent .int2 (.integer (-32769))).buffer = [7] := by
    apply (result .int2 (.integer (-32769))).2.2.2.1
    intro present
    rw [refused] at present
    cases present
  have unfit : (sent .int2 (.text "a.b")).outcome = .error .wrongType :=
    (result .int2 (.text "a.b")).2.1.mpr ⟨nofun, rfl⟩
  obtain ⟨written, least, width, reading, -⟩ :=
    (result .int2 (.integer (-32768))).2.2.2.2.1 (-32768) 2 rfl rfl ⟨by decide, by decide⟩
  obtain ⟨marked, labelled, kept⟩ :=
    (result (.other "ltree") (.text "a.b")).2.2.2.2.2.1 nofun nofun rfl
  exact ⟨documented, ⟨written, least, width, reading⟩, refused, unchanged, unfit, marked, labelled,
    kept rfl⟩

end Value

end SqlTemplate
