/-!
This file reads and writes the bit patterns of binary floating-point numbers. A pattern stands for
a signed multiple of a power of two, an infinity, or no number at all; a number is written in a
format as its nearest value there, and of two equally near values the one with the even
significand.
-/

namespace SqlTemplate.Binary

/-- A format has this many fraction bits and exponent bits, below one sign bit. -/
structure Format where
  fractionBits : Nat
  exponentBits : Nat
  deriving DecidableEq, Repr

namespace Format

/-- The format with 32 bits. -/
def single : Format := ⟨23, 8⟩

/-- The format with 64 bits. -/
def double : Format := ⟨52, 11⟩

/-- The number of values of the fraction field. -/
def fractionSize (format : Format) : Nat := Nat.pow 2 format.fractionBits

/-- The number of values of the exponent field. -/
def exponentSize (format : Format) : Nat := Nat.pow 2 format.exponentBits

/-- The exponent field of this value marks the infinities and the patterns without a number. -/
def topExponent (format : Format) : Nat := format.exponentSize - 1

/-- The unit of the smallest values is this power of two. -/
def lowestExponent (format : Format) : Int :=
  2 - Int.ofNat (format.exponentSize / 2) - Int.ofNat format.fractionBits

end Format

/-- A bit pattern stands for one of these. -/
inductive Datum where
  | notANumber (negative : Bool) (payload : Nat)
  | infinity (negative : Bool)
  | finite (negative : Bool) (significand : Nat) (exponent : Int)
  deriving DecidableEq, Repr

namespace Format

/-- Payloads of all formats are compared by their leading bits, out of this many. -/
def payloadBits : Nat := 64

/-- The pattern is split into sign, exponent field and fraction field. The payload of a pattern
without a number is its fraction field, moved up to the leading bits. -/
def decode (format : Format) (pattern : Nat) : Datum :=
  let fraction := pattern % format.fractionSize
  let field := pattern / format.fractionSize % format.exponentSize
  let negative := pattern / format.fractionSize / format.exponentSize % 2 == 1
  if field = format.topExponent then
    if fraction = 0 then .infinity negative
    else .notANumber negative (fraction * Nat.pow 2 (payloadBits - format.fractionBits))
  else if field = 0 then .finite negative fraction format.lowestExponent
  else .finite negative (format.fractionSize + fraction)
    (format.lowestExponent + Int.ofNat (field - 1))

/-- The three fields are put together. -/
def assemble (format : Format) (negative : Bool) (field fraction : Nat) : Nat :=
  (if negative then format.exponentSize * format.fractionSize else 0) +
    field * format.fractionSize + fraction

/-- The quotient is rounded to the nearest natural number, a half to the even neighbour. -/
def roundHalfEven (numerator denominator : Nat) : Nat :=
  let quotient := numerator / denominator
  let remainder := numerator % denominator
  if 2 * remainder < denominator then quotient
  else if denominator < 2 * remainder then quotient + 1
  else quotient + quotient % 2

/-- The magnitude is counted in units of the given power of two. -/
def inUnits (significand : Nat) (exponent unit : Int) : Nat :=
  if unit ≤ exponent then significand * Nat.pow 2 (exponent - unit).toNat
  else roundHalfEven significand (Nat.pow 2 (unit - exponent).toNat)

/-- The unit that a significand of this size is counted in. The least significand has the lowest
unit, and so does zero. -/
def unitFor (format : Format) (significand : Nat) (exponent : Int) : Int :=
  if significand = 0 then format.lowestExponent
  else max format.lowestExponent
    (exponent + Int.ofNat significand.log2 - Int.ofNat format.fractionBits)

/-- The nearest value of the format. A significand that rounds up to the next power of two carries
into the exponent field, and a carry past the largest value gives infinity. -/
def encodeFinite (format : Format) (negative : Bool) (significand : Nat) (exponent : Int) : Nat :=
  let unit := format.unitFor significand exponent
  let steps := (unit - format.lowestExponent).toNat
  let magnitude := steps * format.fractionSize + inUnits significand exponent unit
  format.assemble negative 0 (min magnitude (format.topExponent * format.fractionSize))

/-- The datum is written in the format. A payload keeps its leading bits and is marked quiet. -/
def encode (format : Format) : Datum → Nat
  | .infinity negative => format.assemble negative format.topExponent 0
  | .finite negative significand exponent => format.encodeFinite negative significand exponent
  | .notANumber negative payload =>
      let quiet := format.fractionSize / 2
      let fraction := payload / Nat.pow 2 (payloadBits - format.fractionBits)
      format.assemble negative format.topExponent (quiet + fraction % quiet)

/-- A pattern of one format is converted to the other. -/
def convert (source target : Format) (pattern : Nat) : Nat :=
  target.encode (source.decode pattern)

end Format

end SqlTemplate.Binary
