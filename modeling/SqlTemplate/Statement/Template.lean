import SqlTemplate.Token.Basic

/-!
This file works on templates: it counts their placeholders, and counts and fills the slots for a column.
-/

namespace SqlTemplate

namespace Template

/-- The sign of a value that is bound later. -/
def placeholder : Char := '?'

/-- The number of placeholders. -/
def placeholders (template : String) : Nat :=
  template.toList.count placeholder

/-- The number of slots. A slot is an opening brace with the closing brace next to it, and no letter belongs
to two slots. -/
def slots : List Char → Nat
  | [] => 0
  | [_] => 0
  | letter :: next :: rest =>
      if letter = '\x7b' ∧ next = '\x7d' then slots rest + 1 else slots (next :: rest)

/-- The first slot gives way to the filling, which is not looked at again. -/
def fillFirst (filling : List Char) : List Char → List Char
  | [] => []
  | [letter] => [letter]
  | letter :: next :: rest =>
      if letter = '\x7b' ∧ next = '\x7d' then filling ++ rest
      else letter :: fillFirst filling (next :: rest)

end Template

/-- The number of placeholders of a token. -/
def Token.placeholders (token : Token) : Nat :=
  match token.template? with
  | some template => Template.placeholders template
  | none => 0

end SqlTemplate
