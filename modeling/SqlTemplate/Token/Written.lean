import SqlTemplate.Text.Record
import SqlTemplate.Token.Basic
import SqlTemplate.Value.Written

/-!
This file writes a token as a diagnostic, which a message shows when the token was not expected.
-/

namespace SqlTemplate

/-- The diagnostic form of an operator. -/
def Operator.diagnostic : Operator → String
  | .conjunction => "And"
  | .disjunction => "Or"
  | .negation => "Not"

/-- The diagnostic form of a bracket. -/
def Bracket.diagnostic : Bracket → String
  | .opening => "Open"
  | .closing => "Close"

/-- The diagnostic form of a keyword. -/
def Keyword.diagnostic : Keyword → String
  | .select => "Select"
  | .source => "From"
  | .condition => "Where"
  | .having => "Having"
  | .orderBy => "OrderBy"
  | .groupBy => "GroupBy"
  | .ascending => "Asc"
  | .descending => "Desc"
  | .insertInto => "InsertInto"
  | .values => "Values"
  | .deleteFrom => "DeleteFrom"
  | .comma => "Comma"

/-- The diagnostic form of a column. -/
def ColumnRef.diagnostic (column : ColumnRef) : String :=
  Text.record "ColumnRef"
    [("name", Text.diagnosticLiteral column.name),
     ("alias", Text.optional (column.shownAs.map Text.diagnosticLiteral))]

/-- The diagnostic form of a shard selector. -/
def ShardSelector.diagnostic : ShardSelector → String
  | .disabled => "Disabled"
  | .shardId id => Text.application "ExplicitId" [Text.diagnosticLiteral id]
  | .shardValue value => Text.application "ExplicitValue" [value.diagnostic]
  | .fromHints => "HintDerived"

/-- The diagnostic form of a table. -/
def TableRef.diagnostic (table : TableRef) : String :=
  Text.record "TableRef"
    [("logical_name", Text.diagnosticLiteral table.logicalName),
     ("alias", Text.optional (table.shownAs.map Text.diagnosticLiteral)),
     ("shard", table.shard.diagnostic),
     ("read_hint", Text.truth table.isRead)]

/-- The diagnostic form of an expression. -/
def Expression.diagnostic (expression : Expression) : String :=
  Text.record "Expression"
    [("template", Text.diagnosticLiteral expression.template),
     ("nullable", Text.truth expression.isAbsent),
     ("values", Text.sequence (expression.values.map Value.diagnostic))]

/-- The diagnostic form of a token. -/
def Token.diagnostic : Token → String
  | .text content => Text.application "Text" [Text.diagnosticLiteral content]
  | .keyword word => Text.application "Keyword" [word.diagnostic]
  | .operator connective => Text.application "Operator" [connective.diagnostic]
  | .bracket half => Text.application "Bracket" [half.diagnostic]
  | .column reference => Text.application "Column" [reference.diagnostic]
  | .table reference => Text.application "Table" [reference.diagnostic]
  | .expression body => Text.application "Expression" [body.diagnostic]
  | .columnExpression columnName body =>
      Text.application "ColumnExpression"
        [Text.record "ColumnExpression"
          [("column", Text.diagnosticLiteral columnName), ("expression", body.diagnostic)]]
  | .omitted => "Omitted"

end SqlTemplate
