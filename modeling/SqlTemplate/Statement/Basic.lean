import SqlTemplate.Statement.Fragment
import SqlTemplate.Statement.Pairing
import SqlTemplate.Text.Blank

/-!
This file renders tokens as a statement. The parameters are collected first, because a table can stand
before the predicate whose value leads to its shard.
-/

namespace SqlTemplate

/-- A rendered statement and the values of its placeholders. -/
structure Statement where
  sql : String
  parameters : Parameters
  deriving DecidableEq, Repr

namespace Statement

/-- The tokens that a statement shows. -/
def visible (tokens : List Token) : List Token :=
  tokens.filter fun token => token ≠ .omitted

/-- What is shown of other tokens in the same places is shown in the same places. -/
theorem visible_map {change : Token → Token}
    (keepsOmitted : ∀ token, change token = .omitted ↔ token = .omitted) (tokens : List Token) :
    visible (tokens.map change) = (visible tokens).map change := by
  have same : ((fun token => decide (token ≠ .omitted)) ∘ change) =
      fun token => decide (token ≠ .omitted) := by
    funext token
    simp [keepsOmitted]
  rw [visible, List.filter_map, same, visible]

/-- The tokens are rendered in the context. -/
def render (context : Context) (tokens : List Token) : Except Fault Statement := do
  let shown := visible tokens
  let parameters ← (collect context.supply shown).mapError .state
  let written ← writeFrom context parameters (.start context.dialect) "" shown
  .ok ⟨Text.trim written, parameters⟩

/-- The JSON form of a statement. -/
def json (statement : Statement) : String :=
  "\x7b\"sql\":" ++ Text.jsonLiteral statement.sql ++ ",\"parameters\":" ++
    statement.parameters.json ++ "\x7d"

end Statement

end SqlTemplate
