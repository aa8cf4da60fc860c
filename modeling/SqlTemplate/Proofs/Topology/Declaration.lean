import SqlTemplate.Proofs.Topology.Shard
import SqlTemplate.Context

/-!
This file says which declaration of a database answers for the name of a table. Declared names may agree up to
the case of Latin letters. Then the least of them in the order of the keys answers for all their spellings,
and every way through the topology is as if no other table were declared.
-/

namespace SqlTemplate

namespace Keyed

variable {Item : Type} {table : Keyed Item} {key : String} {item : Item}

/-- Whatever the table holds is found under its key. -/
theorem get?_of_mem (member : (key, item) ∈ table.entries) : table.get? key = some item := by
  cases found : table.get? key with
  | none =>
      rw [get?, Option.map_eq_none_iff, List.find?_eq_none] at found
      exact absurd (beq_self_eq_true key) (found _ member)
  | some other =>
      obtain ⟨entry, located, rfl⟩ := Option.map_eq_some_iff.mp found
      have sameKey : entry.1 = key := by simpa using List.find?_some located
      have otherMember : (key, entry.2) ∈ table.entries :=
        sameKey ▸ List.mem_of_find?_eq_some located
      rw [eq_of_mem otherMember member]

/-- A search for a key finds the least one that fits. -/
theorem findKey?_eq_some_iff (fits : String → Bool) :
    table.findKey? fits = some item ↔
      ∃ key, (key, item) ∈ table.entries ∧ fits key = true ∧
        ∀ other ∈ table.entries, other.1 < key → fits other.1 = false := by
  constructor
  · intro found
    obtain ⟨⟨key, item⟩, located, rfl⟩ := Option.map_eq_some_iff.mp found
    obtain ⟨hit, before, after, split, missed⟩ := List.find?_eq_some_iff_append.mp located
    have sorted := table.sorted
    rw [split, List.pairwise_append, List.pairwise_cons] at sorted
    refine ⟨key, List.mem_of_find?_eq_some located, hit, fun other member less => ?_⟩
    rw [split, List.mem_append, List.mem_cons] at member
    rcases member with earlier | rfl | later
    · simpa using missed other earlier
    · exact absurd less (String.lt_irrefl _)
    · exact absurd (String.lt_trans less (sorted.2.1.1 other later)) (String.lt_irrefl _)
  · rintro ⟨key, member, hit, missed⟩
    obtain ⟨before, after, split, below, -⟩ := exists_split member
    refine Option.map_eq_some_iff.mpr ⟨(key, item), ?_, rfl⟩
    refine List.find?_eq_some_iff_append.mpr ⟨hit, before, after, split, fun other earlier => ?_⟩
    rw [missed other (by simp [split, earlier]) (below other earlier)]
    rfl

theorem findKey?_eq_none_iff (fits : String → Bool) :
    table.findKey? fits = none ↔ ∀ entry ∈ table.entries, fits entry.1 = false := by
  simp only [findKey?, Option.map_eq_none_iff, List.find?_eq_none, Bool.not_eq_true]

end Keyed

namespace Database

variable {database : Database} {table declared : String} {rule : ShardRule}

/-- A declaration answers for a name that agrees with its own up to the case of Latin letters, unless a lesser
declared name agrees as well. -/
structure Answers (database : Database) (table declared : String) (rule : ShardRule) : Prop where
  declares : (declared, rule) ∈ database.tables.entries
  agrees : Text.sameName declared table = true
  first : ∀ other ∈ database.tables.entries, other.1 < declared →
    Text.sameName other.1 table = false

/-- A table is looked up by the declaration that answers for its name. -/
theorem rule?_eq_some_iff :
    database.rule? table = some rule ↔ ∃ declared, database.Answers table declared rule := by
  rw [rule?, Keyed.findKey?_eq_some_iff]
  exact exists_congr fun _ =>
    ⟨fun ⟨declares, agrees, first⟩ => ⟨declares, agrees, first⟩,
      fun ⟨declares, agrees, first⟩ => ⟨declares, agrees, first⟩⟩

theorem rule?_eq_none_iff :
    database.rule? table = none ↔
      ∀ entry ∈ database.tables.entries, Text.sameName entry.1 table = false :=
  Keyed.findKey?_eq_none_iff _

/-- The database as if it declared no other table. -/
def alone (database : Database) (table : String) (rule : ShardRule) : Database :=
  { database with tables := .empty }.declare table rule

theorem rule?_alone : (database.alone table rule).rule? table = some rule := by
  have agrees := Text.sameName_refl table
  simp [rule?, alone, declare, Keyed.findKey?, Keyed.insert, Keyed.insertEntry, Keyed.empty, agrees]

end Database

namespace Topology

variable {topology : Topology} {name table : String} {database : Database} {rule : ShardRule}

/-- The topology with a single database, which declares a single table. -/
def alone (name : String) (database : Database) (table : String) (rule : ShardRule) : Topology :=
  empty.register name (database.alone table rule)

theorem sharded_alone :
    (alone name database table rule).sharded name table = .ok (database.alone table rule, rule) :=
  sharded_of_rule (Keyed.get?_insert_self _ _ _) Database.rule?_alone

/-- A table is routed by a rule: it is sharded, and every way through the topology leads where it would if no
other table were declared. -/
structure Routes (topology : Topology) (name : String) (database : Database) (table : String)
    (rule : ShardRule) : Prop where
  lookedUp : database.rule? table = some rule
  isSharded : topology.isSharded name table = true
  byId : ∀ shardId, topology.byId name table shardId =
    (alone name database table rule).byId name table shardId
  byValue : ∀ value, topology.byValue name table value =
    (alone name database table rule).byValue name table value
  byHints : ∀ hints parameters, topology.byHints name table hints parameters =
    (alone name database table rule).byHints name table hints parameters

/-- The rule that is looked up routes the table. -/
theorem routes_of_rule (found : topology.database? name = some database)
    (ruled : database.rule? table = some rule) : topology.Routes name database table rule := by
  have sharded := sharded_of_rule found ruled
  have byId (shardId : String) : topology.byId name table shardId =
      (alone name database table rule).byId name table shardId := by
    rw [Topology.byId, Topology.byId, sharded, sharded_alone]
    rfl
  have byValue (value : Value) : topology.byValue name table value =
      (alone name database table rule).byValue name table value := by
    rw [Topology.byValue, Topology.byValue, sharded, sharded_alone]
    rfl
  refine ⟨ruled, isSharded_of_rule found ruled, byId, byValue, fun hints parameters => ?_⟩
  rw [Topology.byHints, Topology.byHints, sharded, sharded_alone, ok_bind, ok_bind]
  simp only [byId, byValue]

/-- A table is not sharded: every way through the topology refuses it, and its physical name is its logical
one. -/
structure Unsharded (topology : Topology) (name table : String) : Prop where
  isSharded : topology.isSharded name table = false
  byId : ∀ shardId, topology.byId name table shardId = .error (.shard table (.notSharded name))
  byValue : ∀ value, topology.byValue name table value = .error (.shard table (.notSharded name))
  byHints : ∀ hints parameters,
    topology.byHints name table hints parameters = .error (.shard table (.notSharded name))
  physicalName : ∀ (context : Context) (parameters : Parameters) (reference : TableRef),
    context.topology = some topology.locator → context.database = some name →
      reference.logicalName = table → context.physicalName parameters reference = .ok table

/-- A table without a rule is not sharded. -/
theorem unsharded_of_noRule (found : topology.database? name = some database)
    (noRule : database.rule? table = none) : topology.Unsharded name table := by
  have refused : topology.sharded name table = .error (.shard table (.notSharded name)) := by
    rw [sharded, found]
    dsimp only
    rw [noRule]
  have notSharded : topology.isSharded name table = false := by
    rw [isSharded, found]
    dsimp only
    rw [noRule]
    rfl
  refine ⟨notSharded, fun _ => ?_, fun _ => ?_, fun _ _ => ?_, ?_⟩
  · rw [byId, refused, error_bind]
  · rw [byValue, refused, error_bind]
  · rw [byHints, refused, error_bind]
  · rintro context parameters reference chosen within rfl
    rw [Context.physicalName, chosen, within]
    dsimp only
    rw [isSharded_locator, notSharded, Bool.not_false, Bool.or_true, if_pos rfl]

/-- In a valid topology every declaration routes the table of its name by its own column and modulus, unless
the database declares a lesser name that agrees with it up to the case of Latin letters. Whatever its spelling,
the name of a table is routed by the least declared name that agrees with it, and a name with which none
agrees is not sharded. -/
theorem routes_of_declares (valid : topology.validate = .ok ())
    (known : (name, database) ∈ topology.databases.entries) :
    (∀ table rule, (table, rule) ∈ database.tables.entries →
      (∀ other ∈ database.tables.entries, other.1 < table →
        Text.sameName other.1 table = false) →
        topology.Routes name database table rule) ∧
    (∀ table declared rule, database.Answers table declared rule →
      topology.Routes name database table rule ∧
      ∀ value number, value.integerView? = some number →
        topology.byValue name table value =
          .ok (database.separator ++ Text.natural (rule.shardOf number))) ∧
    ∀ table, (∀ entry ∈ database.tables.entries, Text.sameName entry.1 table = false) →
      topology.Unsharded name table := by
  have found : topology.database? name = some database := Keyed.get?_of_mem known
  refine ⟨?_, ?_, ?_⟩
  · intro table rule declares first
    have answers : database.Answers table table rule :=
      ⟨declares, Text.sameName_refl table, first⟩
    exact routes_of_rule found (Database.rule?_eq_some_iff.mpr ⟨table, answers⟩)
  · intro table declared rule answers
    have ruled := Database.rule?_eq_some_iff.mpr ⟨declared, answers⟩
    have positive := modulus_pos_of_validate valid found ruled
    exact ⟨routes_of_rule found ruled, fun _ _ view => byValue_of_view found ruled positive view⟩
  · intro table disagree
    exact unsharded_of_noRule found (Database.rule?_eq_none_iff.mpr disagree)

/-- A shop declares two tables whose names differ in the case of one letter. -/
def twinDatabase : Database :=
  (Database.declare { dialect := .postgreSql } "person" ⟨"city_id", 8⟩).declare "Person"
    ⟨"country_id", 4⟩

/-- The topology whose only database declares the two tables. -/
def twins : Topology := Topology.empty.register "shop" twinDatabase

/-- The lesser of the two names routes all spellings of both, and no other name is sharded. -/
theorem routes_of_lesserTwin :
    twins.validate = .ok () ∧ twins.Routes "shop" twinDatabase "Person" ⟨"country_id", 4⟩ ∧
      twins.byValue "shop" "PERSON" (.integer (-1)) = .ok "_3" ∧ twins.Unsharded "shop" "city" := by
  have valid : twins.validate = .ok () := by decide
  have known : ("shop", twinDatabase) ∈ twins.databases.entries := List.mem_singleton.mpr rfl
  obtain ⟨own, answered, unsharded⟩ := routes_of_declares valid known
  have capitals : twinDatabase.Answers "PERSON" "Person" ⟨"country_id", 4⟩ :=
    ⟨by decide, by decide, by decide⟩
  obtain ⟨-, routed⟩ := answered "PERSON" "Person" ⟨"country_id", 4⟩ capitals
  exact ⟨valid, own "Person" ⟨"country_id", 4⟩ (by decide) (by decide),
    routed (.integer (-1)) (-1) rfl, unsharded "city" (by decide)⟩

/-- The greater of the two names is routed by the column and the modulus of the lesser one. -/
theorem rule?_of_greaterTwin :
    twins.validate = .ok () ∧ ("shop", twinDatabase) ∈ twins.databases.entries ∧
      ("person", (⟨"city_id", 8⟩ : ShardRule)) ∈ twinDatabase.tables.entries ∧
      twinDatabase.rule? "person" = some ⟨"country_id", 4⟩ ∧
      twins.byValue "shop" "person" (.integer 6) = .ok "_2" := by
  have known : ("shop", twinDatabase) ∈ twins.databases.entries := List.mem_singleton.mpr rfl
  exact ⟨by decide, known, by decide, by decide, by decide⟩

end Topology

end SqlTemplate
