import SqlTemplate.Text.Numeral
import SqlTemplate.Toml.Item
import SqlTemplate.Toml.Quoted

/-!
This file reads items that are written as one word: numbers, truth values, dates and times.
-/

namespace SqlTemplate.Toml.Scalar

open Reader

/-- An underscore stands right behind a digit and right before another one. -/
def isJoined (isDigit : Char → Bool) : List Char → Bool :=
  behind false
where
  behind (digitBefore : Bool) : List Char → Bool
    | [] => true
    | letter :: rest =>
        if letter = '_' then digitBefore && rest.head?.any isDigit && behind false rest
        else behind (isDigit letter) rest

/-- The letters without the underscores between them. -/
def withoutJoints (letters : List Char) : List Char :=
  letters.filter fun letter => letter ≠ '_'

/-- A hexadecimal digit of either case. -/
def isHexDigit (letter : Char) : Bool :=
  (Quoted.hexDigit? letter).isSome

/-- The value of digits in a base. -/
def baseValue (base : Nat) (digits : List Char) : Nat :=
  digits.foldl (fun total digit => base * total + (Quoted.hexDigit? digit).getD 0) 0

/-- A word is split at its sign. -/
def splitSign : List Char → Option Char × List Char
  | '+' :: rest => (some '+', rest)
  | '-' :: rest => (some '-', rest)
  | letters => (none, letters)

/-- A number behind its sign. -/
def signed (sign : Option Char) (number : Nat) : Int :=
  if sign = some '-' then -Int.ofNat number else Int.ofNat number

/-- A whole number in a base that is a power of two. Without a digit it has no value. -/
def based? (base : Nat) (letters : List Char) : Option (Option Int) :=
  let digits := withoutJoints letters
  let areDigits := digits.all fun digit => (Quoted.hexDigit? digit).any fun value => value < base
  if areDigits && isJoined isHexDigit letters then
    some (if digits.isEmpty then none else some (Int.ofNat (baseValue base digits)))
  else none

/-- The letters that make a decimal number of what begins as a whole one. -/
def isDecimalMark (letter : Char) : Bool :=
  letter = '.' || letter = 'e' || letter = 'E'

/-- A word of digits, or one with an underscore behind its first digits, is a whole number. It has no
zero in front. Behind the first underscore other letters may follow, with which the number has no
value. -/
def whole? (sign : Option Char) (letters : List Char) : Option (Option Int) :=
  let tail := letters.dropWhile Char.isDigit
  let isZero := letters.length = 1
  let isWhole := match tail with
    | [] => !letters.isEmpty
    | first :: _ => first = '_' && !tail.any fun letter => letter = ' ' || isDecimalMark letter
  if isWhole && (isZero || letters.head? ≠ some '0') && isJoined isHexDigit letters then
    some ((Text.readDigits? (withoutJoints letters)).map (signed sign))
  else none

/-- A whole number may have a sign, or be written in a base without one. The inner answer is its
value. -/
def integer? : List Char → Option (Option Int)
  | '0' :: 'x' :: digits => based? 16 digits
  | '0' :: 'o' :: digits => based? 8 digits
  | '0' :: 'b' :: digits => based? 2 digits
  | word =>
      let (sign, letters) := splitSign word
      whole? sign letters

/-- From this number on, a decimal number is nearer to infinity than to any number with 64 bits. -/
def overflowBound : Nat := Nat.pow 2 1024 - Nat.pow 2 970

/-- Digits times a power of ten stay below the bound. A power that alone decides is not computed. -/
def isFinite (digits : List Char) (exponent : Int) : Bool :=
  let significand := Text.digitsValue digits
  let power := exponent + (Nat.toDigits 10 significand).length
  if significand = 0 || power < 300 then true
  else if 320 < power then false
  else significand * Nat.pow 10 exponent.toNat < overflowBound * Nat.pow 10 (-exponent).toNat

/-- Digits and underscores are taken. There must be a digit. -/
def digitRun : Reader (List Char) := do
  let letters ← takeWhile fun letter => letter.isDigit || letter = '_'
  let digits := withoutJoints letters
  if digits.isEmpty then failure else return digits

/-- The digits behind a point, if there is one. -/
def fraction : Reader (List Char) := do
  if ← accept ['.'] then digitRun else return []

/-- An exponent follows one of its marks and may have a sign. -/
def exponent : Reader Int := do
  match ← peek? with
  | some 'e' | some 'E' => do
      let _ ← next
      let isNegative ← accept ['-']
      if !isNegative then discard (accept ['+'])
      let digits ← digitRun
      return signed (if isNegative then some '-' else none) (Text.digitsValue digits)
  | _ => return 0

/-- A decimal number has digits without a zero in front, and then a fraction, an exponent, or both.
The answer tells whether it is finite. -/
def magnitude : Reader Bool := do
  let letters ← rest
  let whole ← digitRun
  let parts ← fraction
  let power ← exponent
  if letters.head? = some '0' && 1 < whole.length then failure
  else return isFinite (whole ++ parts) (power - parts.length)

/-- A decimal number may have a sign. -/
def decimal? (word : List Char) : Option Bool :=
  let letters := (splitSign word).2
  if letters = ['i', 'n', 'f'] || letters = ['n', 'a', 'n'] then some true
  else if letters.any isDecimalMark && isJoined Char.isDigit letters then
    magnitude.run? letters
  else none

/-- A fixed number of digits within the bounds. -/
def digitsBetween (count lowest highest : Nat) : Reader Nat := do
  let letters ← rest
  match Text.readDigits? (letters.take count) with
  | some number =>
      if (letters.take count).length = count && lowest ≤ number && number ≤ highest then
        set (letters.drop count)
        return number
      else failure
  | none => failure

/-- The last day of a month. -/
def lastDay (year month : Nat) : Nat :=
  if month = 2 then
    if year % 4 = 0 && (year % 100 != 0 || year % 400 = 0) then 29 else 28
  else if month = 4 || month = 6 || month = 9 || month = 11 then 30
  else 31

/-- A date of the calendar. -/
def date : Reader Unit := do
  let year ← digitsBetween 4 0 9999
  expect ['-']
  let month ← digitsBetween 2 1 12
  expect ['-']
  let _ ← digitsBetween 2 1 (lastDay year month)

/-- A time of day. The seconds and their fraction may be left out. -/
def time : Reader Unit := do
  let _ ← digitsBetween 2 0 23
  expect [':']
  let _ ← digitsBetween 2 0 59
  if ← accept [':'] then
    let _ ← digitsBetween 2 0 60
    if ← accept ['.'] then
      let fraction ← takeWhile Char.isDigit
      if fraction.isEmpty then failure

/-- The distance of the local time from universal time may follow a date with a time. -/
def offset : Reader Unit := do
  match ← peek? with
  | some 'Z' | some 'z' => discard next
  | some '+' | some '-' => do
      let _ ← next
      let _ ← digitsBetween 2 0 23
      expect [':']
      let _ ← digitsBetween 2 0 59
  | _ => return ()

/-- A date, a date with a time, or a time. -/
def isMoment (word : List Char) : Bool :=
  let dateTime : Reader Unit := do
    date
    let _ ← satisfying fun letter => letter = 'T' || letter = 't' || letter = ' '
    time
    offset
  (date.run? word).isSome || (dateTime.run? word).isSome || (time.run? word).isSome

/-- The item that a word stands for. -/
def ofWord? (word : List Char) : Option Item :=
  if word = ['t', 'r', 'u', 'e'] then some (.boolean true)
  else if word = ['f', 'a', 'l', 's', 'e'] then some (.boolean false)
  else
    match integer? word, decimal? word with
    | some number, _ => some (.integer number)
    | none, some isFinite => some (.decimal isFinite)
    | none, none => if isMoment word then some .moment else none

/-- The letters of a word: all but blanks, ends of lines, and the signs that part words. -/
def isWordLetter (letter : Char) : Bool :=
  !(isGap letter || ['\r', '\n', '=', ',', '#', '[', ']', '\x7b', '\x7d'].contains letter)

/-- A word goes on behind blanks with a letter that begins neither a text nor a fraction. -/
def goesOnWith (letter : Char) : Bool :=
  isWordLetter letter && letter ≠ '"' && letter ≠ '\'' && letter ≠ '.'

/-- Blanks and the letters behind them, with which a word goes on. So a date takes the time behind it
along. -/
def continuation : Reader (Option (List Char)) := do
  let letters ← rest
  let gap := letters.takeWhile isGap
  match letters.dropWhile isGap with
  | [] => return none
  | letter :: _ =>
      if !gap.isEmpty && goesOnWith letter then do
        skipGap
        let later ← takeWhile isWordLetter
        return some (gap ++ later)
      else return none

/-- An item that is written as a word is read. -/
def item : Reader Item := do
  let first ← takeWhile isWordLetter
  let later ← repeated continuation
  match ofWord? (first ++ later.flatten) with
  | some item => return item
  | none => failure

end SqlTemplate.Toml.Scalar
