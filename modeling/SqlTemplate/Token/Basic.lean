import SqlTemplate.Value.Basic

/-!
This file defines the tokens that a statement is composed of. Connectives, brackets and clause
keywords are tokens of their own, so that a statement stays a flat list.
-/

namespace SqlTemplate

/-- The connectives of predicates. -/
inductive Operator where
  | conjunction
  | disjunction
  | negation
  deriving DecidableEq, Repr

/-- The two halves of a bracket pair. -/
inductive Bracket where
  | opening
  | closing
  deriving DecidableEq, Repr

/-- The words that begin or join the clauses of a statement. -/
inductive Keyword where
  | select
  | source
  | condition
  | having
  | orderBy
  | groupBy
  | ascending
  | descending
  | insertInto
  | values
  | deleteFrom
  | comma
  deriving DecidableEq, Repr

/-- A column by its name and the alias it is shown under. -/
structure ColumnRef where
  name : String
  shownAs : Option String := none
  deriving DecidableEq, Repr

/-- A table reference finds its shard in one of these ways. -/
inductive ShardSelector where
  | disabled
  | shardId (id : String)
  | shardValue (value : Value)
  | fromHints
  deriving DecidableEq, Repr

/-- A table by its logical name, its alias, the way to its shard, and whether it is only read. -/
structure TableRef where
  logicalName : String
  shownAs : Option String := none
  shard : ShardSelector := .fromHints
  isRead : Bool := false
  deriving DecidableEq, Repr

/-- A template with placeholders, the values bound to them so far, and whether the value that the
expression stands for is absent. -/
structure Expression where
  template : String
  isAbsent : Bool := false
  values : List Value := []
  deriving DecidableEq, Repr

/-- One unit of a statement. -/
inductive Token where
  | text (content : String)
  | keyword (word : Keyword)
  | operator (connective : Operator)
  | bracket (half : Bracket)
  | column (reference : ColumnRef)
  | table (reference : TableRef)
  | expression (body : Expression)
  | columnExpression (columnName : String) (body : Expression)
  | omitted
  deriving DecidableEq, Repr

namespace Operator

/-- The word of the operator. -/
def word : Operator → String
  | .conjunction => "AND"
  | .disjunction => "OR"
  | .negation => "NOT"

/-- Only the negation has no operand on its left. -/
def isBinary : Operator → Bool
  | .negation => false
  | _ => true

end Operator

namespace Bracket

/-- The sign of the bracket. -/
def sign : Bracket → String
  | .opening => "("
  | .closing => ")"

end Bracket

namespace Keyword

/-- All keywords. -/
def all : List Keyword :=
  [.select, .source, .condition, .having, .orderBy, .groupBy, .ascending, .descending,
   .insertInto, .values, .deleteFrom, .comma]

/-- The word of the keyword. -/
def word : Keyword → String
  | .select => "SELECT"
  | .source => "FROM"
  | .condition => "WHERE"
  | .having => "HAVING"
  | .orderBy => "ORDER BY"
  | .groupBy => "GROUP BY"
  | .ascending => "ASC"
  | .descending => "DESC"
  | .insertInto => "INSERT INTO"
  | .values => "VALUES"
  | .deleteFrom => "DELETE FROM"
  | .comma => ","

/-- A keyword that leads a predicate goes when nothing of the predicate stays. -/
def leadsPredicate : Keyword → Bool
  | .condition | .having => true
  | _ => false

end Keyword

namespace TableRef

/-- The table is shown under an alias. -/
def withAlias (table : TableRef) (otherName : String) : TableRef :=
  { table with shownAs := some otherName }

/-- The table is pinned to a shard. -/
def inShard (table : TableRef) (id : String) : TableRef :=
  { table with shard := .shardId id }

/-- The table is routed by a value. -/
def byValue (table : TableRef) (value : Value) : TableRef :=
  { table with shard := .shardValue value }

/-- The table is never sharded. -/
def unsharded (table : TableRef) : TableRef :=
  { table with shard := .disabled }

/-- The table is only read, as after `FROM`. -/
def forReading (table : TableRef) : TableRef :=
  { table with isRead := true }

end TableRef

namespace Expression

/-- A value is bound to the next placeholder. -/
def bind (expression : Expression) (value : Value) : Expression :=
  { expression with values := expression.values ++ [value] }

/-- The expression is marked as absent or as present. -/
def setAbsent (expression : Expression) (isAbsent : Bool) : Expression :=
  { expression with isAbsent := isAbsent }

/-- A value that is present is bound; without a value the expression is absent. -/
def whenPresent (expression : Expression) : Option Value → Expression
  | some value => { expression with isAbsent := false, values := expression.values ++ [value] }
  | none => { expression with isAbsent := true }

/-- One of the two templates makes the expression. -/
def whenElse (condition : Bool) (template other : String) : Expression :=
  { template := if condition then template else other }

end Expression

namespace Token

/-- A comma alone is the keyword, so that it is spaced as one; any other text stays text. -/
def ofText (content : String) : Token :=
  if content = Keyword.comma.word then .keyword .comma else .text content

/-- In a predicate every text is an expression, also a comma. -/
def ofTemplate (template : String) : Token :=
  .expression { template := template }

/-- The expression when the condition holds, and else a token that always melts away. -/
def expressionWhen (condition : Bool) (template : String) : Token :=
  if condition then ofTemplate template else .omitted

/-- The expression behind the token. -/
def expression? : Token → Option Expression
  | .expression body => some body
  | .columnExpression _ body => some body
  | _ => none

/-- The expression behind the token is replaced; any other token stays. -/
def mapExpression (change : Expression → Expression) : Token → Token
  | .expression body => .expression (change body)
  | .columnExpression columnName body => .columnExpression columnName (change body)
  | token => token

theorem expression?_mapExpression (change : Expression → Expression) (token : Token) :
    (token.mapExpression change).expression? = token.expression?.map change := by
  cases token <;> rfl

/-- The tokens that stand for an expression, also one that was left out. -/
def isExpression : Token → Bool
  | .expression _ | .columnExpression _ _ | .omitted => true
  | _ => false

/-- A dead token never becomes part of a melted statement. -/
def isDead : Token → Bool
  | .expression body => body.isAbsent
  | .columnExpression _ body => body.isAbsent
  | .omitted => true
  | _ => false

/-- The token is one half of a bracket pair. -/
def isBracket : Token → Bool
  | .bracket _ => true
  | _ => false

/-- The token opens a bracket pair. -/
def isOpening : Token → Bool
  | .bracket .opening => true
  | _ => false

/-- The token closes a bracket pair. -/
def isClosing : Token → Bool
  | .bracket .closing => true
  | _ => false

/-- The token is a connective. -/
def isOperator : Token → Bool
  | .operator _ => true
  | _ => false

/-- The token is a connective with two operands. -/
def isBinary : Token → Bool
  | .operator connective => connective.isBinary
  | _ => false

/-- The token negates its operand. -/
def isNegation : Token → Bool
  | .operator .negation => true
  | _ => false

/-- The token is a clause keyword. -/
def isKeyword : Token → Bool
  | .keyword _ => true
  | _ => false

/-- The token is the comma between the items of a clause. -/
def isComma : Token → Bool
  | .keyword .comma => true
  | _ => false

/-- The token leads a predicate. -/
def leadsPredicate : Token → Bool
  | .keyword word => word.leadsPredicate
  | _ => false

/-- The values bound to the token itself. -/
def boundValues (token : Token) : List Value :=
  match token.expression? with
  | some body => body.values
  | none => []

/-- The template in which placeholders count. -/
def template? : Token → Option String
  | .text content => some content
  | .expression body => some body.template
  | .columnExpression _ body => some body.template
  | _ => none

/-- The column that names the values of the token. -/
def column? : Token → Option String
  | .columnExpression columnName _ => some columnName
  | _ => none

end Token

end SqlTemplate
