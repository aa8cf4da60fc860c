import SqlTemplate.Decimal.Layout
import SqlTemplate.Text.Literal
import SqlTemplate.Value.Basic

/-!
This file writes a value in three ways: plainly for a reader, as JSON, and as a diagnostic that
names the kind of the value.
-/

namespace SqlTemplate

open Decimal

/-- A plain number never has an exponent, and a whole one has no point. -/
def Decimal.Layout.plain : Layout where
  positional := fun _ => true
  wholeFraction := false
  exponentPlus := false
  tie := .upper
  notANumber := "NaN"
  infinity := fun negative => if negative then "-inf" else "inf"

/-- A JSON number has an exponent from 10^16 on and below 10^-5. JSON has no word for a special
value. -/
def Decimal.Layout.json : Layout where
  positional := fun power => -5 ≤ power && power < 16
  wholeFraction := true
  exponentPlus := true
  tie := .even
  notANumber := "null"
  infinity := fun _ => "null"

/-- A number in a diagnostic has an exponent from 10^16 on and below 10^-4. -/
def Decimal.Layout.diagnostic : Layout where
  positional := fun power => -4 ≤ power && power < 16
  wholeFraction := true
  exponentPlus := false
  tie := .upper
  notANumber := "NaN"
  infinity := fun negative => if negative then "-inf" else "inf"

namespace Value

/-- The plain form stands text between single quotes and gives only the length of bytes. -/
def plain : Value → String
  | .null => "NULL"
  | .boolean truth => if truth then "true" else "false"
  | .integer number => Text.integer number.toInt
  | .float pattern => Layout.plain.write pattern
  | .text content => "'" ++ content ++ "'"
  | .bytes content => "<" ++ Text.natural content.length ++ " bytes>"
  | .instant time => time.text ++ "+00:00"

/-- Bytes are written as numbers between commas. -/
def byteNumbers (separator : String) (content : List UInt8) : String :=
  separator.intercalate (content.map fun byte => Text.natural byte.toNat)

/-- The JSON form of a value. -/
def json : Value → String
  | .null => "null"
  | .boolean truth => if truth then "true" else "false"
  | .integer number => Text.integer number.toInt
  | .float pattern => Layout.json.write pattern
  | .text content => Text.jsonLiteral content
  | .bytes content => "[" ++ byteNumbers "," content ++ "]"
  | .instant time => Text.jsonLiteral (time.text ++ "Z")

/-- The diagnostic form of a value. -/
def diagnostic : Value → String
  | .null => "Null"
  | .boolean truth => if truth then "Bool(true)" else "Bool(false)"
  | .integer number => "Int(" ++ Text.integer number.toInt ++ ")"
  | .float pattern => "Float(" ++ Layout.diagnostic.write pattern ++ ")"
  | .text content => "Text(" ++ Text.diagnosticLiteral content ++ ")"
  | .bytes content => "Bytes([" ++ byteNumbers ", " content ++ "])"
  | .instant time => "Timestamp(" ++ time.text ++ "Z)"

end Value

end SqlTemplate
