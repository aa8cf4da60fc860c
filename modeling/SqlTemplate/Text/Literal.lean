import SqlTemplate.Text.Hidden

/-!
This file writes a text as a literal between double quotes. The two styles differ in the characters
they escape: JSON escapes the quote, the backslash and the controls below the space; a diagnostic
escapes every hidden character.
-/

namespace SqlTemplate.Text

/-- The hexadecimal digits of a number in small letters, filled with zeros up to the width. -/
def hexadecimal (width number : Nat) : List Char :=
  let digits := Nat.toDigits 16 number
  List.replicate (width - digits.length) '0' ++ digits

/-- JSON has short escapes for five controls and writes the other controls with four digits. -/
def jsonLetter (letter : Char) : List Char :=
  if letter = '"' then ['\\', '"']
  else if letter = '\\' then ['\\', '\\']
  else if letter = '\n' then ['\\', 'n']
  else if letter = '\r' then ['\\', 'r']
  else if letter = '\t' then ['\\', 't']
  else if letter.toNat = 0x08 then ['\\', 'b']
  else if letter.toNat = 0x0c then ['\\', 'f']
  else if letter.toNat < 0x20 then '\\' :: 'u' :: hexadecimal 4 letter.toNat
  else [letter]

/-- A diagnostic has short escapes for the null, the line ends and the tab, and writes the other
hidden characters by their code in braces. -/
def diagnosticLetter (letter : Char) : List Char :=
  if letter = '"' then ['\\', '"']
  else if letter = '\\' then ['\\', '\\']
  else if letter = '\n' then ['\\', 'n']
  else if letter = '\r' then ['\\', 'r']
  else if letter = '\t' then ['\\', 't']
  else if letter.toNat = 0 then ['\\', '0']
  else if isHidden letter then
    ['\\', 'u', '\x7b'] ++ hexadecimal 1 letter.toNat ++ ['\x7d']
  else [letter]

/-- Each character is escaped on its own, and the whole stands between double quotes. -/
def literal (escape : Char → List Char) (text : String) : String :=
  String.ofList ('"' :: text.toList.flatMap escape ++ ['"'])

/-- The JSON literal of a text. -/
def jsonLiteral (text : String) : String := literal jsonLetter text

/-- The diagnostic literal of a text. -/
def diagnosticLiteral (text : String) : String := literal diagnosticLetter text

end SqlTemplate.Text
