import SqlTemplate.Fault
import SqlTemplate.Keyed
import SqlTemplate.Text.Blank
import SqlTemplate.Text.Caseless

/-!
This file defines the topology: which logical databases there are, and how their tables are spread
over shards.
-/

namespace SqlTemplate

/-- A sharded table finds the shard of a row by the value of one column, modulo a number. -/
structure ShardRule where
  column : String
  modulus : UInt32
  deriving DecidableEq, Repr

/-- A logical database has a dialect, and its sharded tables by name. The separator stands between
the name of a table and the name of a shard. -/
structure Database where
  dialect : Dialect
  separator : String := "_"
  tables : Keyed ShardRule := .empty

/-- The logical databases by name. -/
structure Topology where
  databases : Keyed Database := .empty

namespace Database

/-- A table is declared to be sharded. -/
def declare (database : Database) (table : String) (rule : ShardRule) : Database :=
  { database with tables := database.tables.insert table rule }

/-- The rule of the first table with the name, without regard to the case of Latin letters. -/
def rule? (database : Database) (table : String) : Option ShardRule :=
  database.tables.findKey? fun declared => Text.sameName declared table

end Database

namespace Topology

/-- The topology without a database. -/
def empty : Topology := {}

/-- A database is registered and replaces one with the same name. -/
def register (topology : Topology) (name : String) (database : Database) : Topology :=
  { topology with databases := topology.databases.insert name database }

/-- The database with exactly this name. -/
def database? (topology : Topology) (name : String) : Option Database :=
  topology.databases.get? name

/-- The dialect of a database. -/
def dialect? (topology : Topology) (name : String) : Option Dialect :=
  (topology.database? name).map Database.dialect

/-- A table is sharded when its database declares it. -/
def isSharded (topology : Topology) (database table : String) : Bool :=
  match topology.database? database with
  | some declared => (declared.rule? table).isSome
  | none => false

/-- What is wrong with one rule. The modulus is looked at before the column. -/
def ruleFlaw? (database table : String) (rule : ShardRule) : Option ConfigFault :=
  if rule.modulus = 0 then some (.zeroModulus table database)
  else if Text.isBlankText rule.column then some (.blankShardColumn table database)
  else none

/-- What is wrong with the first flawed table of a database. -/
def databaseFlaw? (name : String) (database : Database) : Option ConfigFault :=
  database.tables.entries.findSome? fun entry => ruleFlaw? name entry.1 entry.2

/-- What is wrong with the first flawed table of the first flawed database. -/
def flaw? (topology : Topology) : Option ConfigFault :=
  topology.databases.entries.findSome? fun entry => databaseFlaw? entry.1 entry.2

/-- A topology is valid when no table is flawed. -/
def validate (topology : Topology) : Except ConfigFault Unit :=
  match topology.flaw? with
  | some flaw => .error flaw
  | none => .ok ()

end Topology

end SqlTemplate
