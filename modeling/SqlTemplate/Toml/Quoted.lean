import SqlTemplate.Toml.Reader

/-!
This file reads text between quotes. Between double quotes a backslash begins an escape; between
single quotes every letter stands for itself. Three quotes enclose several lines.
-/

namespace SqlTemplate.Toml.Quoted

open Reader

/-- The value of a hexadecimal digit. -/
def hexDigit? (letter : Char) : Option Nat :=
  let code := letter.toNat
  if '0'.toNat ≤ code && code ≤ '9'.toNat then some (code - '0'.toNat)
  else if 'a'.toNat ≤ code && code ≤ 'f'.toNat then some (code - 'a'.toNat + 10)
  else if 'A'.toNat ≤ code && code ≤ 'F'.toNat then some (code - 'A'.toNat + 10)
  else none

/-- A number is written with this many hexadecimal digits. -/
def hexNumber : (digits : Nat) → (total : Nat) → Reader Nat
  | 0, total => return total
  | digits + 1, total => do
      match hexDigit? (← next) with
      | some digit => hexNumber digits (16 * total + digit)
      | none => failure

/-- A character is given by its code, which must not be that of a surrogate. -/
def coded (digits : Nat) : Reader Char := do
  let code ← hexNumber digits 0
  if code.isValidChar then return Char.ofNat code else failure

/-- The letter behind a backslash stands for a character. -/
def escaped : Reader Char := do
  match ← next with
  | 'b' => return '\x08'
  | 't' => return '\t'
  | 'n' => return '\n'
  | 'f' => return '\x0c'
  | 'r' => return '\r'
  | 'e' => return '\x1b'
  | '"' => return '"'
  | '\\' => return '\\'
  | 'x' => coded 2
  | 'u' => coded 4
  | 'U' => coded 8
  | _ => failure

/-- One letter of a text on one line. -/
def lineLetter (quote : Char) : Reader (Option Char) := do
  let letter ← next
  if letter = quote then return none
  else if letter = '\\' && quote = '"' then return some (← escaped)
  else if isPlain letter then return some letter
  else failure

/-- A backslash at the end of a line takes it away, and all blanks up to the next letter. -/
def skipLineEnds : Reader Unit := do
  skipGap
  if ← acceptLineEnd then
    let _ ← repeated do
      skipGap
      if ← acceptLineEnd then return some () else return none
    return ()
  else failure

/-- One or a few letters of a text on several lines. -/
def blockLetters (quote : Char) : Reader (Option (List Char)) := do
  if ([quote, quote, quote] : List Char).isPrefixOf (← rest) then return none
  match ← next with
  | '\n' => return some ['\n']
  | '\r' => do
      expect ['\n']
      return some ['\r', '\n']
  | letter =>
      if letter = '\\' && quote = '"' then
        match ← peek? with
        | some ahead =>
            if isGap ahead || ahead = '\n' || ahead = '\r' then do
              skipLineEnds
              return some []
            else return some [← escaped]
        | none => failure
      else if isPlain letter then return some [letter]
      else failure

/-- Of the quotes that end a text on several lines, up to two before the last three belong to the
text. -/
def closingQuotes (quote : Char) : Reader (List Char) := do
  let letters ← rest
  let run := (letters.takeWhile fun letter => letter = quote).length
  let taken := min run 5
  set (letters.drop taken)
  return List.replicate (taken - 3) quote

/-- The text behind three opening quotes. An end of line right behind them is left out. -/
def block (quote : Char) : Reader String := do
  let _ ← acceptLineEnd
  let chunks ← repeated (blockLetters quote)
  let ending ← closingQuotes quote
  return String.ofList (chunks.flatten ++ ending)

/-- The text behind one opening quote. -/
def line (quote : Char) : Reader String := do
  let letters ← repeated (lineLetter quote)
  return String.ofList letters

/-- A text that may have several lines. -/
def text (quote : Char) : Reader String := do
  if ← accept [quote, quote, quote] then block quote
  else do
    expect [quote]
    line quote

end SqlTemplate.Toml.Quoted
