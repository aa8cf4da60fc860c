/-!
This file fixes which characters are blank and removes them from both ends of a text.
-/

namespace SqlTemplate.Text

/-- These ranges hold the 25 characters with the Unicode property `White_Space`. -/
def blankRanges : List (Nat × Nat) :=
  [(0x09, 0x0d), (0x20, 0x20), (0x85, 0x85), (0xa0, 0xa0), (0x1680, 0x1680),
   (0x2000, 0x200a), (0x2028, 0x2029), (0x202f, 0x202f), (0x205f, 0x205f), (0x3000, 0x3000)]

/-- A character is blank when its code lies in one of the blank ranges. -/
def isBlank (letter : Char) : Bool :=
  blankRanges.any fun range => range.1 ≤ letter.toNat && letter.toNat ≤ range.2

/-- The blanks at the end of the letters are dropped. -/
def dropBlankEnd : List Char → List Char
  | [] => []
  | letter :: rest =>
      match dropBlankEnd rest with
      | [] => if isBlank letter then [] else [letter]
      | kept => letter :: kept

/-- The blanks at both ends of the letters are dropped. -/
def trimLetters (letters : List Char) : List Char :=
  dropBlankEnd (letters.dropWhile isBlank)

/-- The text without the blanks at its two ends. -/
def trim (text : String) : String :=
  String.ofList (trimLetters text.toList)

@[simp] theorem toList_trim (text : String) :
    (trim text).toList = trimLetters text.toList := by
  simp [trim]

/-- A text is blank when it holds no other character. -/
def isBlankText (text : String) : Bool :=
  text.toList.all isBlank

end SqlTemplate.Text
