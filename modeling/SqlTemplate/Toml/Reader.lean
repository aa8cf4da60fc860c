/-!
This file defines readers: a reader takes letters from the front of a text and leaves the rest, or
fails.
-/

namespace SqlTemplate.Toml

/-- A reader passes on the letters that it leaves. -/
abbrev Reader := StateT (List Char) Option

namespace Reader

/-- The letters that are left. -/
def rest : Reader (List Char) := get

/-- The next letter, which stays. -/
def peek? : Reader (Option Char) := do
  let letters ← rest
  return letters.head?

/-- The next letter is taken. -/
def next : Reader Char := do
  match ← rest with
  | [] => failure
  | letter :: letters => do
      set letters
      return letter

/-- The next letters are taken when they are the given ones. -/
def accept (wanted : List Char) : Reader Bool := do
  let letters ← rest
  if wanted.isPrefixOf letters then
    set (letters.drop wanted.length)
    return true
  else return false

/-- The next letters must be the given ones. -/
def expect (wanted : List Char) : Reader Unit := do
  if ← accept wanted then return () else failure

/-- The letters are taken as long as they are of a kind. -/
def takeWhile (isWanted : Char → Bool) : Reader (List Char) := do
  let letters ← rest
  set (letters.dropWhile isWanted)
  return letters.takeWhile isWanted

/-- The next letter is taken when it is of a kind. -/
def satisfying (isWanted : Char → Bool) : Reader Char := do
  let letter ← next
  if isWanted letter then return letter else failure

/-- A step is repeated until it has no result, but no more often than the bound. -/
def repeatUpTo {Result : Type} (step : Reader (Option Result)) : (bound : Nat) →
    Reader (List Result)
  | 0 => failure
  | bound + 1 => do
      match ← step with
      | none => return []
      | some result => do
          let later ← repeatUpTo step bound
          return result :: later

/-- A step that takes a letter with each result is repeated until it has no result. -/
def repeated {Result : Type} (step : Reader (Option Result)) : Reader (List Result) := do
  let letters ← rest
  repeatUpTo step (letters.length + 1)

/-- A reader must use up a text. -/
def run? {Result : Type} (reader : Reader Result) (letters : List Char) : Option Result :=
  match StateT.run reader letters with
  | some (result, []) => some result
  | _ => none

/-- Blanks within a line. -/
def isGap (letter : Char) : Bool := letter = ' ' || letter = '\t'

/-- The letters that may stand in a comment or between quotes: all but the controls, of which the
tab is allowed. -/
def isPlain (letter : Char) : Bool :=
  letter = '\t' || (0x20 ≤ letter.toNat && letter.toNat != 0x7f)

/-- The blanks up to something else are taken. -/
def skipGap : Reader Unit := do
  let _ ← takeWhile isGap
  return ()

/-- A line ends with a line feed, which may follow a carriage return. -/
def acceptLineEnd : Reader Bool := do
  if ← accept ['\n'] then return true
  accept ['\r', '\n']

/-- A comment reaches up to the end of its line. -/
def skipComment : Reader Unit := do
  if ← accept ['#'] then
    let _ ← takeWhile isPlain
    return ()

/-- Blanks, ends of lines and comments between the parts of an item. -/
def skipFiller : Reader Unit := do
  let _ ← repeated do
    skipGap
    skipComment
    if ← acceptLineEnd then return some () else return none
  return ()

end Reader

end SqlTemplate.Toml
