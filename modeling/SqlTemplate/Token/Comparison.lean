import SqlTemplate.Token.Basic

/-!
This file lists the comparisons of a column with values.
-/

namespace SqlTemplate

/-- The comparisons that a predicate on one column can make. -/
inductive Comparison where
  | equal
  | notEqual
  | greaterThan
  | greaterThanEquals
  | lessThan
  | lessThanEquals
  | between
  | like
  | notLike
  | among
  | notAmong
  | isNull
  | isNotNull
  deriving DecidableEq, Repr

namespace Comparison

/-- The comparison after its column. -/
def condition : Comparison → String
  | .equal => "= ?"
  | .notEqual => "<> ?"
  | .greaterThan => "> ?"
  | .greaterThanEquals => ">= ?"
  | .lessThan => "< ?"
  | .lessThanEquals => "<= ?"
  | .between => "BETWEEN ? AND ?"
  | .like => "LIKE ?"
  | .notLike => "NOT LIKE ?"
  | .among => "IN(?)"
  | .notAmong => "NOT IN(?)"
  | .isNull => "IS NULL"
  | .isNotNull => "IS NOT NULL"

/-- The template begins with the slot of the column. -/
def template (comparison : Comparison) : String :=
  "\x7b\x7d " ++ comparison.condition

/-- The comparison of a column, without values. -/
def on (comparison : Comparison) (column : String) : Token :=
  .columnExpression column { template := comparison.template }

end Comparison

end SqlTemplate
