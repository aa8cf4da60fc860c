import SqlTemplate.Binary.Ieee
import SqlTemplate.Decimal.Shortest
import SqlTemplate.Text.Numeral

/-!
This file writes a floating-point number with 64 bits. The digits are the shortest that read back;
a layout decides where the point stands, when an exponent is written, and how the special values
look.
-/

namespace SqlTemplate.Decimal

open Text

/-- The decisions of one way to write a number. -/
structure Layout where
  /-- A number whose first digit has this power of ten is written without an exponent. -/
  positional : Int → Bool
  /-- A whole number without an exponent ends in a point and a zero. -/
  wholeFraction : Bool
  /-- An exponent that is not negative carries a plus sign. -/
  exponentPlus : Bool
  tie : Tie
  notANumber : String
  infinity : (negative : Bool) → String

namespace Layout

/-- The digits are written with a point and without an exponent. -/
def positionalLetters (layout : Layout) (digits : List Char) (exponent : Int) : List Char :=
  let whole := (digits.length : Int) + exponent
  if 0 ≤ exponent then
    digits ++ List.replicate exponent.toNat '0' ++ (if layout.wholeFraction then ['.', '0'] else [])
  else if 0 < whole then
    digits.take whole.toNat ++ '.' :: digits.drop whole.toNat
  else '0' :: '.' :: List.replicate (-whole).toNat '0' ++ digits

/-- One digit stands before the point, and the power of ten follows. -/
def scientificLetters (layout : Layout) (digits : List Char) (exponent : Int) : List Char :=
  let power := (digits.length : Int) + exponent - 1
  let sign := if layout.exponentPlus && 0 ≤ power then ['+'] else []
  let mantissa := match digits with
    | first :: second :: rest => first :: '.' :: second :: rest
    | short => short
  mantissa ++ 'e' :: sign ++ integerLetters power

/-- A decimal number is written in the layout. -/
def letters (layout : Layout) (decimal : Scaled) : List Char :=
  let digits := naturalLetters decimal.digits
  if layout.positional ((digits.length : Int) + decimal.exponent - 1) then
    layout.positionalLetters digits decimal.exponent
  else layout.scientificLetters digits decimal.exponent

/-- The pattern of a number with 64 bits is written in the layout. -/
def write (layout : Layout) (pattern : UInt64) : String :=
  match Binary.Format.double.decode pattern.toNat with
  | .notANumber _ _ => layout.notANumber
  | .infinity negative => layout.infinity negative
  | .finite negative significand exponent =>
      let sign := if negative then ['-'] else []
      let body :=
        if significand = 0 then
          '0' :: (if layout.wholeFraction then ['.', '0'] else [])
        else
          let halfStepBelow := significand == Binary.Format.double.fractionSize &&
            exponent != Binary.Format.double.lowestExponent
          layout.letters (shortest significand exponent halfStepBelow layout.tie)
      String.ofList (sign ++ body)

end Layout

end SqlTemplate.Decimal
