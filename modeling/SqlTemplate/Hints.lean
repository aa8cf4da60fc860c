import SqlTemplate.Keyed
import SqlTemplate.Text.Caseless
import SqlTemplate.Value.Basic

/-!
This file defines what a caller may tell about the shard of a statement's tables.
-/

namespace SqlTemplate

/-- The hints name a shard, give a value to derive it from, or give the values of shard columns.
Column names are kept in lower case. -/
structure Hints where
  shardId : Option String := none
  shardValue : Option Value := none
  columnValues : Keyed Value := .empty

namespace Hints

/-- The hints that tell nothing. -/
def empty : Hints := {}

/-- Every table goes to the named shard. -/
def inShard (hints : Hints) (shardId : String) : Hints :=
  { hints with shardId := some shardId }

/-- Every table goes to the shard of the value. -/
def byValue (hints : Hints) (value : Value) : Hints :=
  { hints with shardValue := some value }

/-- A table sharded by the column goes to the shard of the value. -/
def withColumn (hints : Hints) (column : String) (value : Value) : Hints :=
  { hints with columnValues := hints.columnValues.insert (Text.lowerCase column) value }

/-- The value given last for the column, without regard to the case of its name. -/
def columnValue? (hints : Hints) (column : String) : Option Value :=
  hints.columnValues.get? (Text.lowerCase column)

/-- The last value of a column wins. -/
theorem columnValue?_withColumn (hints : Hints) {column other : String} (value : Value)
    (same : Text.sameName other column = true) :
    (hints.withColumn column value).columnValue? other = some value := by
  simp [columnValue?, withColumn, (Text.sameName_iff other column).mp same,
    Keyed.get?_insert_self]

/-- The value of one column does not touch the others. -/
theorem columnValue?_withColumn_of_ne (hints : Hints) {column other : String} (value : Value)
    (distinct : Text.sameName other column = false) :
    (hints.withColumn column value).columnValue? other = hints.columnValue? other := by
  apply Keyed.get?_insert_of_ne
  intro equal
  simp [(Text.sameName_iff other column).mpr equal] at distinct

end Hints

end SqlTemplate
