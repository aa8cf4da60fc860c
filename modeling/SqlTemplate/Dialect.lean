import SqlTemplate.Text.Delimited

/-!
This file defines how the supported databases quote identifiers, mark tables that are only read,
and write placeholders.
-/

namespace SqlTemplate

/-- A style fixes the spelling of a statement. Without further decisions it has no read hint and
writes every placeholder as a question mark. -/
structure Style where
  quote : String → String
  readHint : String := ""
  numbersPlaceholders : Bool := false

/-- The style that leaves identifiers as they are. -/
def Style.plain : Style where
  quote := fun identifier => identifier

/-- The database systems a statement can be written for. -/
inductive Dialect where
  | mySql
  | sqlServer
  | postgreSql
  | oracle
  deriving DecidableEq, Repr

namespace Dialect

/-- A statement that names neither a dialect nor a database is written for MySQL. -/
def standard : Dialect := .mySql

/-- The name of the dialect in messages and documents. -/
def name : Dialect → String
  | .mySql => "mysql"
  | .sqlServer => "sql_server"
  | .postgreSql => "postgresql"
  | .oracle => "oracle"

/-- The name of the dialect in a diagnostic. -/
def diagnostic : Dialect → String
  | .mySql => "MySql"
  | .sqlServer => "SqlServer"
  | .postgreSql => "PostgreSql"
  | .oracle => "Oracle"

/-- A document may also use the two short names. -/
def ofName? : String → Option Dialect
  | "mysql" => some .mySql
  | "sql_server" | "sqlserver" => some .sqlServer
  | "postgresql" | "postgres" => some .postgreSql
  | "oracle" => some .oracle
  | _ => none

theorem ofName?_name (dialect : Dialect) : ofName? dialect.name = some dialect := by
  cases dialect <;> rfl

/-- The marks around a quoted identifier. -/
def marks : Dialect → Text.Marks
  | .mySql => ⟨'\x60', '\x60'⟩
  | .sqlServer => ⟨'[', ']'⟩
  | .postgreSql | .oracle => ⟨'"', '"'⟩

/-- An identifier is enclosed in the marks of the dialect. -/
def quote (dialect : Dialect) (identifier : String) : String :=
  dialect.marks.enclose identifier

/-- Only SQL Server marks a table that is read without locks. -/
def readHint : Dialect → String
  | .sqlServer => "WITH (NOLOCK)"
  | _ => ""

/-- Only PostgreSQL numbers its placeholders. -/
def numbersPlaceholders : Dialect → Bool
  | .postgreSql => true
  | _ => false

/-- The style of the dialect. -/
def style (dialect : Dialect) : Style where
  quote := dialect.quote
  readHint := dialect.readHint
  numbersPlaceholders := dialect.numbersPlaceholders

end Dialect

end SqlTemplate
