import SqlTemplate.Binary.Ieee
import SqlTemplate.Calendar
import SqlTemplate.Text.Blank
import SqlTemplate.Text.Numeral

/-!
This file defines the values that a statement binds to its placeholders, and their integer view,
by which tables are sharded.
-/

namespace SqlTemplate

/-- A value bound to one placeholder. A floating-point number is kept as its bit pattern. -/
inductive Value where
  | null
  | boolean (truth : Bool)
  | integer (number : Int64)
  | float (pattern : UInt64)
  | text (content : String)
  | bytes (content : List UInt8)
  | instant (time : Instant)
  deriving DecidableEq, Repr

namespace Value

/-- A whole number is a value only when 64 bits with a sign hold it. -/
def int64? (number : Int) : Option Int64 :=
  if Int64.minValue.toInt ≤ number && number ≤ Int64.maxValue.toInt then
    some (Int64.ofInt number)
  else none

/-- A whole number outside the range of 64 bits has no value. -/
def ofInteger? (number : Int) : Option Value :=
  (int64? number).map integer

/-- A floating-point number with 32 bits has the same number with 64 bits as its value. -/
def ofSingle (pattern : UInt32) : Value :=
  .float (UInt64.ofNat (Binary.Format.single.convert .double pattern.toNat))

/-- The null value is the absence of data. -/
def isNull : Value → Bool
  | .null => true
  | _ => false

/-- Text is seen as an integer when it spells one in the range of 64 bits between blanks. -/
def integerOfText? (content : String) : Option Int64 :=
  (Text.readInteger? (Text.trimLetters content.toList)).bind int64?

/-- Integers and texts that spell one have an integer view; no other value has. -/
def integerView? : Value → Option Int64
  | .integer number => some number
  | .text content => integerOfText? content
  | _ => none

@[simp] theorem integerView?_integer (number : Int64) :
    (integer number).integerView? = some number := rfl

@[simp] theorem integerView?_text (content : String) :
    (text content).integerView? = integerOfText? content := rfl

end Value

end SqlTemplate
