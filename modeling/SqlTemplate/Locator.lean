import SqlTemplate.Fault
import SqlTemplate.Hints
import SqlTemplate.Parameters

/-!
This file says what a statement may ask about databases and shards, and leaves open where the answers come
from.
-/

namespace SqlTemplate

/-- A locator knows the dialect of each database and which of its tables are sharded. The shard of such a
table is named, derived from a value, or found by hints and parameters, and the answer is the suffix that
turns the logical name of the table into the name of the shard. -/
structure Locator where
  dialect? : (database : String) → Option Dialect
  isSharded : (database table : String) → Bool
  byId : (database table shardId : String) → Except Fault String
  byValue : (database table : String) → (value : Value) → Except Fault String
  byHints : (database table : String) → (hints : Hints) → (parameters : Parameters) →
    Except Fault String

end SqlTemplate
