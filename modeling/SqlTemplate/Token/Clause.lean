import SqlTemplate.Token.Comparison

/-!
This file lists the clauses that a statement is composed of and spells each of them as tokens.
-/

namespace SqlTemplate

namespace Token

/-- The separator stands between two neighbours. -/
def separated (separator : Token) : List Token → List Token
  | [] => []
  | [last] => [last]
  | token :: next :: rest => token :: separator :: separated separator (next :: rest)

/-- The tokens stand in brackets. -/
def bracketed (tokens : List Token) : List Token :=
  .bracket .opening :: tokens ++ [.bracket .closing]

theorem bracketed_append (inner rest : List Token) :
    bracketed inner ++ rest = .bracket .opening :: (inner ++ .bracket .closing :: rest) := by
  simp [bracketed]

/-- The columns stand between commas. -/
def columnList (columns : List String) : List Token :=
  separated (.keyword .comma) (columns.map fun name => .column { name := name })

/-- As many unbound placeholders as there are columns stand between commas. -/
def placeholderList (columns : List String) : List Token :=
  separated (.keyword .comma) (columns.map fun _ => ofTemplate "?")

end Token

/-- A part of a statement that is appended at once. -/
inductive Clause where
  | tokens (content : List Token)
  | when (holds : Bool) (token : Token)
  | whenElse (holds : Bool) (token other : Token)
  | column (name : String) (shownAs : Option String)
  | table (name : String) (shownAs : Option String)
  | expression (template : String)
  | comparison (relation : Comparison) (columnName : String)
  | operator (connective : Operator)
  | bracket (half : Bracket)
  | bracketed (content : List Token)
  | joined (connective : Operator) (operands : List Token)
  | select (columns : List String)
  | fromTable (source : TableRef)
  | filter (predicate : List Token)
  | orderBy (columnName : String) (ascending : Bool)
  | groupBy (columnName : String)
  | having (template : String)
  | insertInto (target : String) (columns : List String)
  | deleteFrom (target : String)

/-- The tokens of a clause. In place of a token whose condition fails stands one that always melts
away. In the clause that inserts a row, the empty text keeps the space between the closing bracket
and the keyword. -/
def Clause.spelled : Clause → List Token
  | .tokens content => content
  | .when holds token => [if holds then token else .omitted]
  | .whenElse holds token other => [if holds then token else other]
  | .column name shownAs => [.column { name := name, shownAs := shownAs }]
  | .table name shownAs => [.table { logicalName := name, shownAs := shownAs }]
  | .expression template => [.ofTemplate template]
  | .comparison relation columnName => [relation.on columnName]
  | .operator connective => [.operator connective]
  | .bracket half => [.bracket half]
  | .bracketed content => Token.bracketed content
  | .joined connective operands => Token.separated (.operator connective) operands
  | .select columns => .keyword .select :: Token.columnList columns
  | .fromTable source => [.keyword .source, .table source.forReading]
  | .filter predicate => .keyword .condition :: predicate
  | .orderBy columnName ascending =>
      [.keyword .orderBy, .column { name := columnName },
       .keyword (if ascending then .ascending else .descending)]
  | .groupBy columnName => [.keyword .groupBy, .column { name := columnName }]
  | .having template => [.keyword .having, .ofTemplate template]
  | .insertInto target columns =>
      [.keyword .insertInto, .table { logicalName := target }] ++
        Token.bracketed (Token.columnList columns) ++ [.text "", .keyword .values] ++
        Token.bracketed (Token.placeholderList columns)
  | .deleteFrom target => [.keyword .deleteFrom, .table { logicalName := target }]

end SqlTemplate
