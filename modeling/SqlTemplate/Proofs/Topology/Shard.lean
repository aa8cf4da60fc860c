import Mathlib.Data.Int.ModEq
import SqlTemplate.Proofs.Text.Trim
import SqlTemplate.Proofs.Topology.Validation
import SqlTemplate.Topology.Route

/-!
This file says to which shard a number belongs, and what each way through a topology answers for it. In a
topology that was validated every number belongs to exactly one shard of a table.
-/

namespace SqlTemplate

namespace ShardRule

/-- The shard of a number is its remainder, which is never negative. -/
def shardOf (rule : ShardRule) (number : Int64) : Nat :=
  (number.toInt % (rule.modulus.toNat : Int)).toNat

theorem natCast_shardOf {rule : ShardRule} (positive : 0 < rule.modulus.toNat) (number : Int64) :
    (rule.shardOf number : Int) = number.toInt % (rule.modulus.toNat : Int) :=
  Int.toNat_of_nonneg (Int.emod_nonneg _ (by omega))

theorem shardOf_lt {rule : ShardRule} (positive : 0 < rule.modulus.toNat) (number : Int64) :
    rule.shardOf number < rule.modulus.toNat := by
  have below : number.toInt % (rule.modulus.toNat : Int) < (rule.modulus.toNat : Int) :=
    Int.emod_lt_of_pos _ (by omega)
  rw [← natCast_shardOf positive] at below
  omega

theorem shardOf_modEq {rule : ShardRule} (positive : 0 < rule.modulus.toNat) (number : Int64) :
    (rule.shardOf number : Int) ≡ number.toInt [ZMOD rule.modulus.toNat] := by
  rw [natCast_shardOf positive]
  exact Int.mod_modEq _ _

/-- No other number below the modulus is congruent. -/
theorem eq_shardOf_of_modEq {rule : ShardRule} {number : Int64} {shard : Nat}
    (small : shard < rule.modulus.toNat)
    (congruent : (shard : Int) ≡ number.toInt [ZMOD rule.modulus.toNat]) :
    shard = rule.shardOf number := by
  have remainder : (shard : Int) % (rule.modulus.toNat : Int) = shard :=
    Int.emod_eq_of_lt (by omega) (by omega)
  rw [shardOf, ← congruent, remainder, Int.toNat_natCast]

/-- Two numbers belong to the same shard exactly when they are congruent. -/
theorem shardOf_eq_iff {rule : ShardRule} (positive : 0 < rule.modulus.toNat)
    (first second : Int64) :
    rule.shardOf first = rule.shardOf second ↔
      first.toInt ≡ second.toInt [ZMOD rule.modulus.toNat] := by
  rw [← Int.natCast_inj, natCast_shardOf positive, natCast_shardOf positive]
  exact Iff.rfl

end ShardRule

namespace Parameter

variable {name : String} {parameters : List Parameter} {found : Parameter}

/-- The first parameter with a name is the one that none with the name stands before. -/
theorem find?_hasName_eq_some_iff :
    parameters.find? (Parameter.hasName name) = some found ↔
      ∃ before after, parameters = before ++ found :: after ∧ found.hasName name = true ∧
        ∀ earlier ∈ before, earlier.hasName name = false := by
  rw [List.find?_eq_some_iff_append]
  constructor
  · rintro ⟨named, before, after, listed, first⟩
    exact ⟨before, after, listed, named, by simpa using first⟩
  · rintro ⟨before, after, listed, named, first⟩
    exact ⟨named, before, after, listed, by simpa using first⟩

theorem find?_hasName_eq_none_iff :
    parameters.find? (Parameter.hasName name) = none ↔
      ∀ parameter ∈ parameters, parameter.hasName name = false := by
  simp only [List.find?_eq_none, Bool.not_eq_true]

end Parameter

namespace Parameters

/-- The first parameter with a name is found without looking at the indices. -/
theorem map_snd_find? (parameters : Parameters) (name : String) :
    (parameters.find? name).map Prod.snd =
      parameters.entries.find? (Parameter.hasName name) := by
  have named : (fun entry : Nat × Parameter => entry.2.hasName name) ∘
      (fun parameter => (parameter.index, parameter)) = Parameter.hasName name := rfl
  rw [find?, numbered, List.find?_map, named, Option.map_map]
  exact Option.map_id'

end Parameters

namespace Topology

variable {topology : Topology} {name table : String} {database : Database} {rule : ShardRule}

/-- In a topology that was validated no modulus is zero. -/
theorem modulus_pos_of_validate (valid : topology.validate = .ok ())
    (found : topology.database? name = some database) (ruled : database.rule? table = some rule) :
    0 < rule.modulus.toNat := by
  obtain ⟨entry, located, rfl⟩ := Option.map_eq_some_iff.mp found
  obtain ⟨declared, ruledAt, rfl⟩ := Option.map_eq_some_iff.mp ruled
  have declares : topology.Declares entry.1 declared.1 declared.2 :=
    ⟨entry.2, List.mem_of_find?_eq_some located, List.mem_of_find?_eq_some ruledAt⟩
  have sound := validate_eq_ok_iff.mp valid entry.1 declared.1 declared.2 declares
  exact UInt32.lt_iff_toNat_lt.mp sound.positive

theorem sharded_of_rule (found : topology.database? name = some database)
    (ruled : database.rule? table = some rule) :
    topology.sharded name table = .ok (database, rule) := by
  rw [sharded, found]
  dsimp only
  rw [ruled]

theorem isSharded_of_rule (found : topology.database? name = some database)
    (ruled : database.rule? table = some rule) : topology.isSharded name table = true := by
  rw [isSharded, found]
  dsimp only
  rw [ruled]
  rfl

/-- The shard of a value is that of its integer view. -/
theorem shardNumber_of_view (positive : 0 < rule.modulus.toNat) {value : Value} {number : Int64}
    (view : value.integerView? = some number) :
    shardNumber table rule value = .ok (rule.shardOf number) := by
  have notZero : rule.modulus ≠ 0 := by
    intro zero
    rw [zero] at positive
    exact absurd positive (by decide)
  rw [shardNumber, view]
  exact if_neg notZero

/-- A value leads to the shard of its integer view. -/
theorem byValue_of_view (found : topology.database? name = some database)
    (ruled : database.rule? table = some rule) (positive : 0 < rule.modulus.toNat) {value : Value}
    {number : Int64} (view : value.integerView? = some number) :
    topology.byValue name table value =
      .ok (database.separator ++ Text.natural (rule.shardOf number)) := by
  rw [byValue, sharded_of_rule found ruled, ok_bind]
  dsimp only
  rw [shardNumber_of_view positive view, ok_bind]

/-- A value without an integer view leads nowhere. -/
theorem byValue_of_noView (found : topology.database? name = some database)
    (ruled : database.rule? table = some rule) {value : Value}
    (noView : value.integerView? = none) :
    topology.byValue name table value = .error (.shard table (.noInteger value)) := by
  have noNumber : shardNumber table rule value = .error (.shard table (.noInteger value)) := by
    rw [shardNumber, noView]
  rw [byValue, sharded_of_rule found ruled, ok_bind]
  dsimp only
  rw [noNumber, error_bind]

/-- A name without a letter is refused. -/
theorem byId_of_blank (found : topology.database? name = some database)
    (ruled : database.rule? table = some rule) {id : String}
    (blank : Text.trimLetters id.toList = []) :
    topology.byId name table id = .error (.shard table .emptyShardId) := by
  rw [byId, sharded_of_rule found ruled, ok_bind]
  dsimp only
  rw [blank]
  rfl

/-- A name that spells a number too large is refused. -/
theorem byId_of_large (found : topology.database? name = some database)
    (ruled : database.rule? table = some rule) {id : String} {number : Nat}
    (spelled : spelledNumber? (Text.trimLetters id.toList) = some number)
    (large : rule.modulus.toNat ≤ number) :
    topology.byId name table id =
      .error (.shard table (.shardIdRange number rule.modulus.toNat)) := by
  have shown : ¬ (Text.trimLetters id.toList).isEmpty = true := by
    intro nothing
    rw [List.isEmpty_iff.mp nothing] at spelled
    cases spelled
  have refused : (spelledNumber? (Text.trimLetters id.toList)).filter
      (fun number => rule.modulus.toNat ≤ number) = some number := by
    rw [spelled, Option.filter_some, if_pos (decide_eq_true large)]
  rw [byId, sharded_of_rule found ruled, ok_bind]
  dsimp only
  rw [if_neg shown, refused]

/-- Any other name is the shard. -/
theorem byId_of_fits (found : topology.database? name = some database)
    (ruled : database.rule? table = some rule) {id : String}
    (shown : Text.trimLetters id.toList ≠ [])
    (fits : ∀ number, spelledNumber? (Text.trimLetters id.toList) = some number →
      number < rule.modulus.toNat) :
    topology.byId name table id =
      .ok (database.separator ++ String.ofList (Text.trimLetters id.toList)) := by
  have accepted : (spelledNumber? (Text.trimLetters id.toList)).filter
      (fun number => rule.modulus.toNat ≤ number) = none := by
    rw [Option.filter_eq_none_iff]
    intro number spelled
    simpa using fits number spelled
  rw [byId, sharded_of_rule found ruled, ok_bind]
  dsimp only
  rw [if_neg (by simpa using shown), accepted]

/-- The number of a shard names it. -/
theorem byId_natural (found : topology.database? name = some database)
    (ruled : database.rule? table = some rule) {shard : Nat} (small : shard < rule.modulus.toNat) :
    topology.byId name table (Text.natural shard) =
      .ok (database.separator ++ Text.natural shard) := by
  have trimmed : Text.trimLetters (Text.natural shard).toList = Text.naturalLetters shard := by
    rw [Text.natural, String.toList_ofList]
    exact Text.trimLetters_of_shown fun _ => Text.isBlank_of_mem_naturalLetters
  have shown : Text.trimLetters (Text.natural shard).toList ≠ [] := by
    rw [trimmed]
    exact Text.naturalLetters_ne_nil shard
  have fits (number : Nat)
      (spelled : spelledNumber? (Text.trimLetters (Text.natural shard).toList) = some number) :
      number < rule.modulus.toNat := by
    rw [trimmed, spelledNumber?, Text.readNatural?_naturalLetters, Option.filter_eq_some_iff,
      Option.some_inj] at spelled
    rwa [← spelled.1]
  rw [byId_of_fits found ruled shown fits, trimmed]
  rfl

/-- A hinted shard is found like a named one. -/
theorem byHints_inShard (found : topology.database? name = some database)
    (ruled : database.rule? table = some rule) (hints : Hints) (shardId : String)
    (parameters : Parameters) :
    topology.byHints name table (hints.inShard shardId) parameters =
      topology.byId name table shardId := by
  rw [byHints, sharded_of_rule found ruled]
  rfl

/-- A hinted value is routed like a value of the reference, when no shard is hinted. -/
theorem byHints_byValue (found : topology.database? name = some database)
    (ruled : database.rule? table = some rule) {hints : Hints} (noShard : hints.shardId = none)
    (value : Value) (parameters : Parameters) :
    topology.byHints name table (hints.byValue value) parameters =
      topology.byValue name table value := by
  have same : (hints.byValue value).shardId = none := noShard
  rw [byHints, sharded_of_rule found ruled, ok_bind]
  dsimp only
  rw [same]
  rfl

/-- The hinted value of the shard column is routed alike, when it is all that the hints tell. -/
theorem byHints_withColumn (found : topology.database? name = some database)
    (ruled : database.rule? table = some rule) {column : String}
    (same : Text.sameName rule.column column = true) (value : Value) (parameters : Parameters) :
    topology.byHints name table (Hints.empty.withColumn column value) parameters =
      topology.byValue name table value := by
  have hinted := Hints.columnValue?_withColumn Hints.empty value same
  rw [byHints, sharded_of_rule found ruled, ok_bind]
  dsimp only
  rw [hinted]
  rfl

/-- Without hints a table is routed by the first parameter that is named like its shard column. -/
theorem byHints_empty (found : topology.database? name = some database)
    (ruled : database.rule? table = some rule) (parameters : Parameters) :
    topology.byHints name table Hints.empty parameters =
      match parameters.entries.find? (Parameter.hasName rule.column) with
      | some parameter => topology.byValue name table parameter.value
      | none => .error (.shard table (.noSource rule.column)) := by
  rw [byHints, sharded_of_rule found ruled, ok_bind, ← parameters.map_snd_find? rule.column]
  dsimp only
  cases parameters.find? rule.column with
  | none => rfl
  | some entry => rfl

/-- A shop spreads its orders over three shards by the number of the customer. -/
def shopDatabase : Database :=
  Database.declare { dialect := .postgreSql } "orders" ⟨"customer_id", 3⟩

/-- The topology whose only database is that of the shop. -/
def shop : Topology := Topology.empty.register "shop" shopDatabase

end Topology

end SqlTemplate
