import SqlTemplate.Nesting.Level
import SqlTemplate.Token.Basic

/-!
This file says what part each token plays when a statement melts. Nothing else about a token
matters for what stays of the statement.
-/

namespace SqlTemplate.Melt

open Nesting

/-- An operand always stays and a dead token never does. A connective needs an operand on both
sides and a negation one on its right. A lead needs an operand in its predicate. Any other keyword
stays and ends the predicate before it. -/
inductive Role where
  | operand
  | dead
  | connective
  | negation
  | lead
  | keyword
  deriving DecidableEq, Repr

/-- The role of a keyword. -/
def keywordRole (word : Keyword) : Role :=
  if word.leadsPredicate then .lead else .keyword

/-- The role of an operator. -/
def operatorRole (connective : Operator) : Role :=
  if connective.isBinary then .connective else .negation

/-- The role of an expression. -/
def expressionRole (body : Expression) : Role :=
  if body.isAbsent then .dead else .operand

/-- A token is a bracket or plays a role. -/
def mark : Token → Mark Role
  | .bracket .opening => .opening
  | .bracket .closing => .closing
  | .keyword word => .item (keywordRole word)
  | .operator connective => .item (operatorRole connective)
  | .expression body => .item (expressionRole body)
  | .columnExpression _ body => .item (expressionRole body)
  | .omitted => .item .dead
  | .text _ | .column _ | .table _ => .item .operand

/-- A token is dead exactly when it plays the dead role. -/
theorem mark_eq_dead_iff (token : Token) : mark token = .item .dead ↔ token.isDead = true := by
  cases token with
  | keyword word => cases word <;> simp [mark, keywordRole, Keyword.leadsPredicate, Token.isDead]
  | operator connective =>
      cases connective <;> simp [mark, operatorRole, Operator.isBinary, Token.isDead]
  | bracket half => cases half <;> simp [mark, Token.isDead]
  | expression body => cases absent : body.isAbsent <;>
      simp [mark, expressionRole, Token.isDead, absent]
  | columnExpression columnName body => cases absent : body.isAbsent <;>
      simp [mark, expressionRole, Token.isDead, absent]
  | _ => simp [mark, Token.isDead]

end SqlTemplate.Melt
