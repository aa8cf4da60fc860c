import SqlTemplate.Context
import SqlTemplate.Proofs.Topology.Shard

/-!
This file finds the physical name of a table in its context. Whichever way tells the number of a row, the
row is found in the same shard.
-/

namespace SqlTemplate

namespace Context

variable {context : Context} {locator : Locator} {name : String} {reference : TableRef}

/-- A table that is pinned to a shard is found there. -/
theorem physicalName_shardId (chosen : context.topology = some locator)
    (within : context.database = some name)
    (sharded : locator.isSharded name reference.logicalName = true) {id : String}
    (selected : reference.shard = .shardId id) (parameters : Parameters) :
    context.physicalName parameters reference =
      (locator.byId name reference.logicalName id).map (reference.logicalName ++ ·) := by
  rw [physicalName, chosen, within]
  simp only [selected, sharded]
  cases locator.byId name reference.logicalName id <;> rfl

/-- A table that is routed by a value is found in the shard of the value. -/
theorem physicalName_shardValue (chosen : context.topology = some locator)
    (within : context.database = some name)
    (sharded : locator.isSharded name reference.logicalName = true) {value : Value}
    (selected : reference.shard = .shardValue value) (parameters : Parameters) :
    context.physicalName parameters reference =
      (locator.byValue name reference.logicalName value).map (reference.logicalName ++ ·) := by
  rw [physicalName, chosen, within]
  simp only [selected, sharded]
  cases locator.byValue name reference.logicalName value <;> rfl

/-- Any other table that is sharded is found by the hints and the parameters. -/
theorem physicalName_fromHints (chosen : context.topology = some locator)
    (within : context.database = some name)
    (sharded : locator.isSharded name reference.logicalName = true)
    (selected : reference.shard = .fromHints) (parameters : Parameters) :
    context.physicalName parameters reference =
      (locator.byHints name reference.logicalName context.hints parameters).map
        (reference.logicalName ++ ·) := by
  rw [physicalName, chosen, within]
  simp only [selected, sharded]
  cases locator.byHints name reference.logicalName context.hints parameters <;> rfl

end Context

/-- The placeholders of a statement lead to a table. The first one that is named like the shard column
decides: its integer view tells the shard, and without an integer view the table is found nowhere, whatever
the later ones say. Without one of that name the table is found nowhere either. -/
structure RoutedBy (rule : ShardRule) (separator table : String) (placeholders : List Parameter)
    (outcome : Except Fault String) : Prop where
  shard : ∀ (before : List Parameter) (found : Parameter) (after : List Parameter) (number : Int64),
    placeholders = before ++ found :: after →
      (∀ earlier ∈ before, earlier.hasName rule.column = false) →
        found.hasName rule.column = true → found.value.integerView? = some number →
          outcome = .ok (table ++ separator ++ Text.natural (rule.shardOf number))
  noInteger : ∀ (before : List Parameter) (found : Parameter) (after : List Parameter),
    placeholders = before ++ found :: after →
      (∀ earlier ∈ before, earlier.hasName rule.column = false) →
        found.hasName rule.column = true → found.value.integerView? = none →
          outcome = .error (.shard table (.noInteger found.value))
  noSource : (∀ placeholder ∈ placeholders, placeholder.hasName rule.column = false) →
    outcome = .error (.shard table (.noSource rule.column))

/-- Without hints a sharded table is routed by the placeholders of its statement. -/
theorem Context.routedBy_physicalName {context : Context} {topology : Topology} {name : String}
    {database : Database} {rule : ShardRule} {reference : TableRef}
    (chosen : context.topology = some topology.locator) (within : context.database = some name)
    (unhinted : context.hints = Hints.empty) (found : topology.database? name = some database)
    (ruled : database.rule? reference.logicalName = some rule) (positive : 0 < rule.modulus.toNat)
    (selected : reference.shard = .fromHints) (parameters : Parameters) :
    RoutedBy rule database.separator reference.logicalName parameters.entries
      (context.physicalName parameters reference) := by
  have sharded := Topology.isSharded_of_rule found ruled
  have asked := physicalName_fromHints chosen within sharded selected parameters
  rw [unhinted, Topology.byHints_locator, Topology.byHints_empty found ruled] at asked
  constructor
  · intro before parameter after number listed others named view
    have first := Parameter.find?_hasName_eq_some_iff.mpr ⟨before, after, listed, named, others⟩
    rw [asked, first]
    dsimp only
    rw [Topology.byValue_of_view found ruled positive view, String.append_assoc]
    rfl
  · intro before parameter after listed others named noView
    have first := Parameter.find?_hasName_eq_some_iff.mpr ⟨before, after, listed, named, others⟩
    rw [asked, first]
    dsimp only
    rw [Topology.byValue_of_noView found ruled noView]
    rfl
  · intro unnamed
    rw [asked, Parameter.find?_hasName_eq_none_iff.mpr unnamed]
    rfl

/-- A table is looked up in a context, beside the parameters of its statement. -/
structure Lookup where
  context : Context
  parameters : Parameters
  reference : TableRef

namespace Lookup

/-- The physical name that the look-up finds. -/
def physicalName (lookup : Lookup) : Except Fault String :=
  lookup.context.physicalName lookup.parameters lookup.reference

/-- The look-up is for a table of a database. -/
structure IsFor (lookup : Lookup) (topology : Topology) (name table : String) : Prop where
  topology : lookup.context.topology = some topology.locator
  database : lookup.context.database = some name
  table : lookup.reference.logicalName = table

/-- A look-up tells the number of its row in one of these ways. A reference comes before the hints, and the
hints come before the parameters, so the hints tell nothing else where one of them is the source. -/
inductive Tells (lookup : Lookup) (rule : ShardRule) (number : Int64) : Prop where
  | value (selected : lookup.reference.shard = .shardValue (.integer number))
  | spelledValue
      (selected : lookup.reference.shard = .shardValue (.text (Text.integer number.toInt)))
  | shard (selected : lookup.reference.shard = .shardId (Text.natural (rule.shardOf number)))
  | hintedShard (selected : lookup.reference.shard = .fromHints)
      (hinted : lookup.context.hints = Hints.empty.inShard (Text.natural (rule.shardOf number)))
  | hintedValue (selected : lookup.reference.shard = .fromHints)
      (hinted : lookup.context.hints = Hints.empty.byValue (.integer number))
  | hintedColumn (selected : lookup.reference.shard = .fromHints) (spelling : String)
      (same : Text.sameName spelling rule.column = true)
      (hinted : lookup.context.hints = Hints.empty.withColumn spelling (.integer number))
  | parameter (selected : lookup.reference.shard = .fromHints)
      (hinted : lookup.context.hints = Hints.empty) (spelling : String)
      (same : Text.sameName spelling rule.column = true) (before after : List Parameter)
      (index : Nat)
      (listed : lookup.parameters.entries =
        before ++ ⟨⟨some spelling, .integer number⟩, index⟩ :: after)
      (first : ∀ earlier ∈ before, earlier.hasName rule.column = false)

end Lookup

/-- A whole number is the integer view of its decimal form. -/
theorem Value.integerView?_text_integer (number : Int64) :
    (Value.text (Text.integer number.toInt)).integerView? = some number := by
  have letters : Text.trimLetters (Text.integer number.toInt).toList =
      Text.integerLetters number.toInt := by
    rw [Text.integer, String.toList_ofList]
    exact Text.trimLetters_of_shown fun _ => Text.isBlank_of_mem_integerLetters
  have inRange : (decide (Int64.minValue.toInt ≤ number.toInt) &&
      decide (number.toInt ≤ Int64.maxValue.toInt)) = true :=
    Bool.and_eq_true_iff.mpr ⟨decide_eq_true number.minValue_le_toInt, decide_eq_true number.toInt_le⟩
  rw [integerView?_text, integerOfText?, letters, Text.readInteger?_integerLetters, Option.bind_some,
    int64?, if_pos inRange, Int64.ofInt_toInt]

namespace Lookup

variable {topology : Topology} {name table : String} {database : Database} {rule : ShardRule}

/-- A reference whose answer is known for its table gets the name with that answer behind it. -/
theorem physicalName_of_suffix {lookup : Lookup} {answer : Except Fault String} {shard : String}
    (asked : lookup.physicalName = answer.map (lookup.reference.logicalName ++ ·))
    (answered : answer = .ok (database.separator ++ shard)) :
    lookup.physicalName = .ok (lookup.reference.logicalName ++ database.separator ++ shard) := by
  rw [asked, answered, String.append_assoc]
  rfl

/-- However a look-up tells the number of its row, it finds the shard to which the number belongs. -/
theorem physicalName_of_tells {lookup : Lookup} {number : Int64}
    (found : topology.database? name = some database) (ruled : database.rule? table = some rule)
    (positive : 0 < rule.modulus.toNat) (isFor : lookup.IsFor topology name table)
    (tells : lookup.Tells rule number) :
    lookup.physicalName =
      .ok (table ++ database.separator ++ Text.natural (rule.shardOf number)) := by
  obtain ⟨chosen, within, rfl⟩ := isFor
  have sharded := Topology.isSharded_of_rule found ruled
  have small := ShardRule.shardOf_lt positive number
  have byNumber := Topology.byValue_of_view found ruled positive (Value.integerView?_integer number)
  have byId := Topology.byId_natural found ruled small
  cases tells with
  | value selected =>
      exact physicalName_of_suffix
        (Context.physicalName_shardValue chosen within sharded selected _) byNumber
  | spelledValue selected =>
      exact physicalName_of_suffix
        (Context.physicalName_shardValue chosen within sharded selected _)
        (Topology.byValue_of_view found ruled positive (Value.integerView?_text_integer number))
  | shard selected =>
      exact physicalName_of_suffix
        (Context.physicalName_shardId chosen within sharded selected _) byId
  | hintedShard selected hinted =>
      have asked := Context.physicalName_fromHints chosen within sharded selected lookup.parameters
      rw [hinted, Topology.byHints_locator, Topology.byHints_inShard found ruled] at asked
      exact physicalName_of_suffix asked byId
  | hintedValue selected hinted =>
      have asked := Context.physicalName_fromHints chosen within sharded selected lookup.parameters
      rw [hinted, Topology.byHints_locator, Topology.byHints_byValue found ruled rfl] at asked
      exact physicalName_of_suffix asked byNumber
  | hintedColumn selected spelling same hinted =>
      have asked := Context.physicalName_fromHints chosen within sharded selected lookup.parameters
      rw [Text.sameName_symm] at same
      rw [hinted, Topology.byHints_locator,
        Topology.byHints_withColumn found ruled same] at asked
      exact physicalName_of_suffix asked byNumber
  | parameter selected hinted spelling same before after index listed first =>
      have routed := Context.routedBy_physicalName chosen within hinted found ruled positive selected
        lookup.parameters
      exact routed.shard before _ after number listed first same (Value.integerView?_integer number)

/-- In a topology that was validated every number belongs to exactly one shard of a table. All ways to
tell the number lead to that shard, so two numbers reach the same physical table exactly when they are
congruent by the modulus. -/
theorem physicalName_eq_iff_congruent (valid : topology.validate = .ok ())
    (found : topology.database? name = some database) (ruled : database.rule? table = some rule) :
    (∀ number : Int64, ∃! shard : Nat, shard < rule.modulus.toNat ∧
      (shard : Int) ≡ number.toInt [ZMOD rule.modulus.toNat]) ∧
    (∀ (lookup : Lookup) (number : Int64), lookup.IsFor topology name table →
      lookup.Tells rule number → ∀ shard : Nat, shard < rule.modulus.toNat →
        (shard : Int) ≡ number.toInt [ZMOD rule.modulus.toNat] →
          lookup.physicalName = .ok (table ++ database.separator ++ Text.natural shard)) ∧
    (∀ (first second : Lookup) (one other : Int64), first.IsFor topology name table →
      second.IsFor topology name table → first.Tells rule one → second.Tells rule other →
        (first.physicalName = second.physicalName ↔
          one.toInt ≡ other.toInt [ZMOD rule.modulus.toNat])) := by
  have positive := Topology.modulus_pos_of_validate valid found ruled
  refine ⟨fun number => ⟨rule.shardOf number, ?_, ?_⟩, ?_, ?_⟩
  · exact ⟨ShardRule.shardOf_lt positive number, ShardRule.shardOf_modEq positive number⟩
  · rintro shard ⟨small, congruent⟩
    exact ShardRule.eq_shardOf_of_modEq small congruent
  · intro lookup number isFor tells shard small congruent
    rw [ShardRule.eq_shardOf_of_modEq small congruent]
    exact physicalName_of_tells found ruled positive isFor tells
  · intro first second one other firstFor secondFor firstTells secondTells
    rw [physicalName_of_tells found ruled positive firstFor firstTells,
      physicalName_of_tells found ruled positive secondFor secondTells,
      ← ShardRule.shardOf_eq_iff positive one other, Except.ok.injEq, String.append_right_inj,
      Text.natural_inj]

/-- A parameter, whose name is spelled in capitals, tells the least number. -/
def leastByParameter : Lookup where
  context := { database := some "shop", topology := some Topology.shop }
  parameters := .ofList [⟨some "CUSTOMER_ID", .integer Int64.minValue⟩]
  reference := { logicalName := "orders" }

/-- A hint names the shard of the number one. -/
def oneByHint : Lookup where
  context :=
    { database := some "shop", topology := some Topology.shop, hints := Hints.empty.inShard "1" }
  parameters := .empty
  reference := { logicalName := "orders" }

theorem physicalName_of_leastNumber :
    Topology.shop.validate = .ok () ∧ leastByParameter.physicalName = .ok "orders_1" ∧
      leastByParameter.physicalName = oneByHint.physicalName := by
  have valid : Topology.shop.validate = .ok () := rfl
  have found : Topology.shop.database? "shop" = some Topology.shopDatabase := rfl
  have ruled : Topology.shopDatabase.rule? "orders" = some ⟨"customer_id", 3⟩ := rfl
  obtain ⟨-, reached, same⟩ := physicalName_eq_iff_congruent valid found ruled
  have least : leastByParameter.Tells ⟨"customer_id", 3⟩ Int64.minValue :=
    .parameter rfl rfl "CUSTOMER_ID" (by decide) [] [] 1 rfl nofun
  have one : oneByHint.Tells ⟨"customer_id", 3⟩ 1 := .hintedShard rfl rfl
  refine ⟨valid, reached leastByParameter _ ⟨rfl, rfl, rfl⟩ least 1 (by decide) (by decide), ?_⟩
  exact (same leastByParameter oneByHint _ _ ⟨rfl, rfl, rfl⟩ ⟨rfl, rfl, rfl⟩ least one).mpr
    (by decide)

end Lookup

end SqlTemplate
