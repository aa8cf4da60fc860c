/-!
This file encloses a text between two marks. A closing mark inside the text is written twice,
so the reader finds the end again at the first closing mark that stands alone.
-/

namespace SqlTemplate.Text

/-- The pair of marks around an enclosed text. -/
structure Marks where
  opening : Char
  closing : Char
  deriving DecidableEq, Repr

namespace Marks

/-- Each closing mark of the letters is doubled. -/
def double (marks : Marks) : List Char → List Char
  | [] => []
  | letter :: rest =>
      if letter = marks.closing then letter :: letter :: marks.double rest
      else letter :: marks.double rest

/-- The text stands between the marks with its closing marks doubled. -/
def enclose (marks : Marks) (text : String) : String :=
  String.ofList (marks.opening :: marks.double text.toList ++ [marks.closing])

/-- The letters up to the first closing mark that is not doubled are undoubled; the letters after
that mark are the rest. -/
def readBody (marks : Marks) : List Char → Option (List Char × List Char)
  | [] => none
  | [letter] => if letter = marks.closing then some ([], []) else none
  | letter :: next :: rest =>
      if letter = marks.closing then
        if next = marks.closing then
          (marks.readBody rest).map fun (body, after) => (letter :: body, after)
        else some ([], next :: rest)
      else (marks.readBody (next :: rest)).map fun (body, after) => (letter :: body, after)

/-- An enclosed text is read from its opening mark on. -/
def read? (marks : Marks) : List Char → Option (List Char × List Char)
  | [] => none
  | letter :: rest => if letter = marks.opening then marks.readBody rest else none

/-- The body of an enclosed text is read back, and what follows is left, as long as it does not begin
with another closing mark. -/
theorem readBody_double (marks : Marks) (letters after : List Char)
    (ends : after.head? ≠ some marks.closing) :
    marks.readBody (marks.double letters ++ marks.closing :: after) = some (letters, after) := by
  induction letters with
  | nil =>
      cases after with
      | nil => simp [double, readBody]
      | cons next rest =>
          have notClosing : next ≠ marks.closing := by simpa using ends
          simp [double, readBody, notClosing]
  | cons letter rest inductionHypothesis =>
      by_cases isClosing : letter = marks.closing
      · subst isClosing
        simp [double, readBody, inductionHypothesis]
      · have nonempty : ∃ next more,
            marks.double rest ++ marks.closing :: after = next :: more := by
          cases body : marks.double rest with
          | nil => exact ⟨_, _, rfl⟩
          | cons next more => exact ⟨_, _, rfl⟩
        obtain ⟨next, more, shape⟩ := nonempty
        rw [shape] at inductionHypothesis
        simp [double, isClosing, shape, readBody, inductionHypothesis]

end Marks

end SqlTemplate.Text
