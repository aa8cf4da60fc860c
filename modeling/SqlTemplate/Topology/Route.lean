import SqlTemplate.Locator
import SqlTemplate.Topology.Basic

/-!
This file finds the shard of a table in a topology, which is the locator that comes with the library. The
answer is the suffix that turns the logical name of the table into the name of its shard.
-/

namespace SqlTemplate.Topology

/-- The database and the rule of a sharded table. -/
def sharded (topology : Topology) (database table : String) :
    Except Fault (Database × ShardRule) :=
  match topology.database? database with
  | none => .error (.shard table (.unknownDatabase database))
  | some declared =>
      match declared.rule? table with
      | none => .error (.shard table (.notSharded database))
      | some rule => .ok (declared, rule)

/-- A value belongs to the shard whose number is its integer view modulo the modulus, which is
never negative. -/
def shardNumber (table : String) (rule : ShardRule) (value : Value) : Except Fault Nat :=
  match value.integerView? with
  | none => .error (.shard table (.noInteger value))
  | some number =>
      if rule.modulus = 0 then .error .zeroDivisor
      else .ok (number.toInt % (rule.modulus.toNat : Int)).toNat

/-- The numbers that an unsigned integer with 64 bits can hold lie below this one. -/
def shardIdLimit : Nat := UInt64.size

/-- The shard number that an identifier spells. An identifier with a minus sign, or one that is too
long for 64 bits, is a name. -/
def spelledNumber? (shardId : List Char) : Option Nat :=
  (Text.readNatural? shardId).filter fun number => number < shardIdLimit

/-- The shard is named. A name that spells a number must be below the modulus. -/
def byId (topology : Topology) (database table shardId : String) : Except Fault String := do
  let (declared, rule) ← topology.sharded database table
  let name := Text.trimLetters shardId.toList
  if name.isEmpty then .error (.shard table .emptyShardId)
  else
    match (spelledNumber? name).filter fun number => rule.modulus.toNat ≤ number with
    | some number => .error (.shard table (.shardIdRange number rule.modulus.toNat))
    | none => .ok (declared.separator ++ String.ofList name)

/-- The shard is derived from a value. -/
def byValue (topology : Topology) (database table : String) (value : Value) :
    Except Fault String := do
  let (declared, rule) ← topology.sharded database table
  let number ← shardNumber table rule value
  .ok (declared.separator ++ Text.natural number)

/-- The shard is found by the first of these that is given: the hinted shard, the hinted value, the
hinted value of the shard column, and the first parameter named like the shard column. What is
given but of no use is not passed over. -/
def byHints (topology : Topology) (database table : String) (hints : Hints)
    (parameters : Parameters) : Except Fault String := do
  let (_, rule) ← topology.sharded database table
  match hints.shardId with
  | some shardId => topology.byId database table shardId
  | none =>
      match hints.shardValue with
      | some value => topology.byValue database table value
      | none =>
          match hints.columnValue? rule.column with
          | some value => topology.byValue database table value
          | none =>
              match parameters.find? rule.column with
              | some (_, parameter) => topology.byValue database table parameter.value
              | none => .error (.shard table (.noSource rule.column))

/-- The topology as a locator. -/
def locator (topology : Topology) : Locator where
  dialect? := topology.dialect?
  isSharded := topology.isSharded
  byId := topology.byId
  byValue := topology.byValue
  byHints := topology.byHints

instance : Coe Topology Locator := ⟨locator⟩

section Locator

variable (topology : Topology)

@[simp] theorem isSharded_locator : topology.locator.isSharded = topology.isSharded := rfl

@[simp] theorem byValue_locator : topology.locator.byValue = topology.byValue := rfl

@[simp] theorem byHints_locator : topology.locator.byHints = topology.byHints := rfl

end Locator

end SqlTemplate.Topology
