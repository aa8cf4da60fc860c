/-!
This file reads and writes whole numbers in decimal digits.
-/

namespace SqlTemplate.Text

/-- A run of digits stands for this number. -/
def digitsValue (digits : List Char) : Nat :=
  digits.foldl (fun total digit => 10 * total + (digit.toNat - '0'.toNat)) 0

/-- A natural number is written as one or more of the digits `0` to `9`. -/
def readDigits? (letters : List Char) : Option Nat :=
  if letters.isEmpty || !letters.all Char.isDigit then none else some (digitsValue letters)

/-- A natural number may carry a plus sign. -/
def readNatural? : List Char → Option Nat
  | '+' :: digits => readDigits? digits
  | digits => readDigits? digits

/-- A whole number may carry either sign. -/
def readInteger? : List Char → Option Int
  | '+' :: digits => (readDigits? digits).map Int.ofNat
  | '-' :: digits => (readDigits? digits).map fun magnitude => -Int.ofNat magnitude
  | digits => (readDigits? digits).map Int.ofNat

/-- The decimal digits of a natural number, without leading zeros. -/
def naturalLetters (number : Nat) : List Char :=
  Nat.toDigits 10 number

/-- A negative number is written with a minus sign. -/
def integerLetters : Int → List Char
  | .ofNat number => naturalLetters number
  | .negSucc number => '-' :: naturalLetters (number + 1)

/-- The decimal form of a natural number. -/
def natural (number : Nat) : String :=
  String.ofList (naturalLetters number)

/-- The decimal form of a whole number. -/
def integer (number : Int) : String :=
  String.ofList (integerLetters number)

/-- The digits are filled with zeros on the left up to the given width. -/
def padded (width number : Nat) : String :=
  let digits := naturalLetters number
  String.ofList (List.replicate (width - digits.length) '0' ++ digits)

theorem digitsValue_append (digits : List Char) (last : Char) :
    digitsValue (digits ++ [last]) =
      10 * digitsValue digits + (last.toNat - '0'.toNat) := by
  simp [digitsValue]

theorem naturalLetters_ne_nil (number : Nat) : naturalLetters number ≠ [] :=
  Nat.toDigits_ne_nil

theorem isDigit_of_mem_naturalLetters {number : Nat} {letter : Char}
    (member : letter ∈ naturalLetters number) : letter.isDigit = true :=
  Nat.isDigit_of_mem_toDigits (by decide) (by decide) member

/-- The last digit of a number stands behind the digits of its tenth part. -/
theorem naturalLetters_eq_append {number : Nat} (large : 10 ≤ number) :
    naturalLetters number =
      naturalLetters (number / 10) ++ [Nat.digitChar (number % 10)] := by
  have joined := @Nat.toDigits_append_toDigits 10 (number / 10) (number % 10) (by decide)
    (by omega) (by omega)
  have lastDigit : Nat.toDigits 10 (number % 10) = [Nat.digitChar (number % 10)] :=
    Nat.toDigits_of_lt_base (by omega)
  have whole : 10 * (number / 10) + number % 10 = number := by omega
  rw [lastDigit, whole] at joined
  exact joined.symm

theorem digitChar_value {digit : Nat} (small : digit < 10) :
    (Nat.digitChar digit).toNat - '0'.toNat = digit := by
  have allDigits : ∀ candidate, candidate < 10 →
      (Nat.digitChar candidate).toNat - '0'.toNat = candidate := by decide
  exact allDigits digit small

/-- The digits of a number stand for it. -/
theorem digitsValue_naturalLetters (number : Nat) :
    digitsValue (naturalLetters number) = number := by
  induction number using Nat.strongRecOn with
  | _ number inductionHypothesis =>
      by_cases small : number < 10
      · rw [naturalLetters, Nat.toDigits_of_lt_base small]
        simpa [digitsValue] using digitChar_value small
      · rw [naturalLetters_eq_append (by omega), digitsValue_append,
          inductionHypothesis _ (by omega), digitChar_value (by omega)]
        omega

/-- A number is read back from its digits. -/
theorem readDigits?_naturalLetters (number : Nat) :
    readDigits? (naturalLetters number) = some number := by
  have allDigits : (naturalLetters number).all Char.isDigit = true :=
    List.all_eq_true.mpr fun _ member => isDigit_of_mem_naturalLetters member
  simp [readDigits?, naturalLetters_ne_nil, allDigits, digitsValue_naturalLetters]

/-- A number with a sign is read back from its decimal form. -/
theorem readInteger?_integerLetters (number : Int) :
    readInteger? (integerLetters number) = some number := by
  cases number with
  | ofNat magnitude =>
      have unsigned : readInteger? (naturalLetters magnitude) =
          (readDigits? (naturalLetters magnitude)).map Int.ofNat := by
        cases shape : naturalLetters magnitude with
        | nil => exact absurd shape (naturalLetters_ne_nil magnitude)
        | cons first rest =>
            have firstMember : first ∈ naturalLetters magnitude := by simp [shape]
            have firstDigit := isDigit_of_mem_naturalLetters firstMember
            rw [readInteger?.eq_def]
            split
            · rename_i sign
              simp only [List.cons.injEq] at sign
              simp [sign.1] at firstDigit
            · rename_i sign
              simp only [List.cons.injEq] at sign
              simp [sign.1] at firstDigit
            · rfl
      rw [integerLetters, unsigned, readDigits?_naturalLetters]
      rfl
  | negSucc magnitude =>
      simp [integerLetters, readInteger?, readDigits?_naturalLetters, Int.negSucc_eq]

end SqlTemplate.Text
