import SqlTemplate.Text.Literal

/-!
This file writes the outline of structured data in a diagnostic.
-/

namespace SqlTemplate.Text

/-- The items stand between commas. -/
def commaSeparated (items : List String) : String :=
  ", ".intercalate items

/-- A name is followed by its arguments in brackets. -/
def application (name : String) (arguments : List String) : String :=
  name ++ "(" ++ commaSeparated arguments ++ ")"

/-- A name is followed by its fields in braces. -/
def record (name : String) (fields : List (String × String)) : String :=
  name ++ " \x7b " ++ commaSeparated (fields.map fun field => field.1 ++ ": " ++ field.2) ++ " \x7d"

/-- The items stand in square brackets. -/
def sequence (items : List String) : String :=
  "[" ++ commaSeparated items ++ "]"

/-- The entries of a table stand in braces, each under its key. -/
def mapping (entries : List (String × String)) : String :=
  "\x7b" ++ commaSeparated (entries.map fun entry => diagnosticLiteral entry.1 ++ ": " ++ entry.2) ++
    "\x7d"

/-- An item that may be missing. -/
def optional : Option String → String
  | some item => application "Some" [item]
  | none => "None"

/-- A truth value. -/
def truth (holds : Bool) : String :=
  if holds then "true" else "false"

end SqlTemplate.Text
