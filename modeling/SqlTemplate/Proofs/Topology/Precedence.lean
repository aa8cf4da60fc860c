import Mathlib.Logic.ExistsUnique
import SqlTemplate.Proofs.Topology.Shard

/-!
This file says which source tells the shard of a table, when a caller may have given hints of several kinds and more
than once, and parameters besides. Of the hints the last one of a kind counts, of the parameters the first one, and
a source that is of no use is not passed over.
-/

namespace SqlTemplate

/-- The calls by which hints are given. -/
inductive HintCall where
  | shard (id : String)
  | value (value : Value)
  | column (name : String) (value : Value)

namespace HintCall

/-- The hints after the call. -/
def apply (hints : Hints) : HintCall → Hints
  | .shard id => hints.inShard id
  | .value given => hints.byValue given
  | .column name given => hints.withColumn name given

/-- The shard that the call names. -/
def shardId? : HintCall → Option String
  | .shard id => some id
  | _ => none

/-- The value that the call gives for all tables. -/
def shardValue? : HintCall → Option Value
  | .value given => some given
  | _ => none

/-- The value that the call gives for the column, however the column is spelled. -/
def columnValue? (column : String) : HintCall → Option Value
  | .column name given => if Text.sameName column name then some given else none
  | _ => none

end HintCall

variable {Item : Type}

/-- The last call that gives an item gives this one. -/
def LastGiven (pick : HintCall → Option Item) (calls : List HintCall) (item : Item) : Prop :=
  ∃ before call after, calls = before ++ call :: after ∧ pick call = some item ∧
    ∀ later ∈ after, pick later = none

/-- No call gives an item. -/
def NeverGiven (pick : HintCall → Option Item) (calls : List HintCall) : Prop :=
  ∀ call ∈ calls, pick call = none

/-- The last item is the first one from the end. -/
theorem findSome?_reverse_eq_some_iff {pick : HintCall → Option Item} {calls : List HintCall}
    {item : Item} : calls.reverse.findSome? pick = some item ↔ LastGiven pick calls item := by
  rw [List.findSome?_eq_some_iff]
  constructor
  · rintro ⟨after, call, before, split, picked, passed⟩
    refine ⟨before.reverse, call, after.reverse, ?_, picked, fun later member => ?_⟩
    · rw [← List.reverse_reverse calls, split]
      simp
    · exact passed later (List.mem_reverse.mp member)
  · rintro ⟨before, call, after, rfl, picked, passed⟩
    refine ⟨after.reverse, call, before.reverse, by simp, picked, fun later member => ?_⟩
    exact passed later (List.mem_reverse.mp member)

theorem findSome?_reverse_eq_none_iff {pick : HintCall → Option Item} {calls : List HintCall} :
    calls.reverse.findSome? pick = none ↔ NeverGiven pick calls := by
  simp only [List.findSome?_eq_none_iff, List.mem_reverse, NeverGiven]

namespace Hints

/-- The hints after calls one after the other. -/
def given (calls : List HintCall) : Hints :=
  calls.foldl HintCall.apply .empty

/-- What each call overrides is told by the last call that gives it, and before all calls as it was at first. -/
theorem observe_foldl (observe : Hints → Option Item) {pick : HintCall → Option Item}
    (overrides : ∀ hints call, observe (HintCall.apply hints call) = (pick call).or (observe hints))
    (calls : List HintCall) (hints : Hints) :
    observe (calls.foldl HintCall.apply hints) =
      (calls.reverse.findSome? pick).or (observe hints) := by
  induction calls generalizing hints with
  | nil => rfl
  | cons call rest inductionHypothesis =>
      rw [List.foldl_cons, inductionHypothesis, overrides, ← Option.or_assoc, List.reverse_cons,
        List.findSome?_append, List.findSome?_singleton]

theorem shardId_given (calls : List HintCall) :
    (given calls).shardId = calls.reverse.findSome? HintCall.shardId? := by
  have overrides (hints : Hints) (call : HintCall) :
      (HintCall.apply hints call).shardId = call.shardId?.or hints.shardId := by
    cases call <;> rfl
  rw [given, observe_foldl Hints.shardId overrides]
  exact Option.or_none

theorem shardValue_given (calls : List HintCall) :
    (given calls).shardValue = calls.reverse.findSome? HintCall.shardValue? := by
  have overrides (hints : Hints) (call : HintCall) :
      (HintCall.apply hints call).shardValue = call.shardValue?.or hints.shardValue := by
    cases call <;> rfl
  rw [given, observe_foldl Hints.shardValue overrides]
  exact Option.or_none

theorem columnValue?_given (column : String) (calls : List HintCall) :
    (given calls).columnValue? column = calls.reverse.findSome? (HintCall.columnValue? column) := by
  have overrides (hints : Hints) (call : HintCall) :
      (HintCall.apply hints call).columnValue? column =
        (call.columnValue? column).or (hints.columnValue? column) := by
    cases call with
    | column name value =>
        cases same : Text.sameName column name with
        | true =>
            rw [HintCall.apply, columnValue?_withColumn hints value same, HintCall.columnValue?, same]
            rfl
        | false =>
            rw [HintCall.apply, columnValue?_withColumn_of_ne hints value same,
              HintCall.columnValue?, same]
            rfl
    | _ => rfl
  rw [given, observe_foldl (fun hints => hints.columnValue? column) overrides]
  exact Option.or_none

end Hints

/-- What tells the shard of a table: its name, or a value to derive it from, or nothing at all. -/
inductive ShardSource where
  | shardId (id : String)
  | value (value : Value)
  | nothing

/-- The source that the hints and the parameters lead to. -/
def Hints.source (hints : Hints) (column : String) (placeholders : List Parameter) : ShardSource :=
  match hints.shardId with
  | some id => .shardId id
  | none =>
      match hints.shardValue.or (hints.columnValue? column) with
      | some told => .value told
      | none =>
          match placeholders.find? (Parameter.hasName column) with
          | some found => .value found.value
          | none => .nothing

namespace ShardSource

/-- A source decides when no source before it is given. A shard named by a hint comes first, then a value for all
tables, then a value for the shard column; a parameter named like the shard column comes last. -/
inductive Decides (column : String) (calls : List HintCall) (placeholders : List Parameter) :
    ShardSource → Prop where
  | shardId {id : String} (last : LastGiven HintCall.shardId? calls id) :
      Decides column calls placeholders (.shardId id)
  | shardValue {value : Value} (noId : NeverGiven HintCall.shardId? calls)
      (last : LastGiven HintCall.shardValue? calls value) :
      Decides column calls placeholders (.value value)
  | columnValue {value : Value} (noId : NeverGiven HintCall.shardId? calls)
      (noValue : NeverGiven HintCall.shardValue? calls)
      (last : LastGiven (HintCall.columnValue? column) calls value) :
      Decides column calls placeholders (.value value)
  | parameter {before after : List Parameter} {found : Parameter}
      (noId : NeverGiven HintCall.shardId? calls)
      (noValue : NeverGiven HintCall.shardValue? calls)
      (noColumn : NeverGiven (HintCall.columnValue? column) calls)
      (listed : placeholders = before ++ found :: after) (named : found.hasName column = true)
      (first : ∀ earlier ∈ before, earlier.hasName column = false) :
      Decides column calls placeholders (.value found.value)
  | nothing (noId : NeverGiven HintCall.shardId? calls)
      (noValue : NeverGiven HintCall.shardValue? calls)
      (noColumn : NeverGiven (HintCall.columnValue? column) calls)
      (unnamed : ∀ placeholder ∈ placeholders, placeholder.hasName column = false) :
      Decides column calls placeholders .nothing

/-- The hints that were given lead to the one source that decides. -/
theorem decides_iff {column : String} {calls : List HintCall} {placeholders : List Parameter}
    {source : ShardSource} :
    Decides column calls placeholders source ↔
      source = (Hints.given calls).source column placeholders := by
  rw [Hints.source, Hints.shardId_given, Hints.shardValue_given, Hints.columnValue?_given]
  constructor
  · intro decides
    cases decides with
    | shardId last => rw [findSome?_reverse_eq_some_iff.mpr last]
    | shardValue noId last =>
        rw [findSome?_reverse_eq_none_iff.mpr noId, findSome?_reverse_eq_some_iff.mpr last]
        rfl
    | columnValue noId noValue last =>
        rw [findSome?_reverse_eq_none_iff.mpr noId, findSome?_reverse_eq_none_iff.mpr noValue,
          findSome?_reverse_eq_some_iff.mpr last]
        rfl
    | @parameter before after found noId noValue noColumn listed named first =>
        have located := Parameter.find?_hasName_eq_some_iff.mpr ⟨before, after, listed, named, first⟩
        rw [findSome?_reverse_eq_none_iff.mpr noId, findSome?_reverse_eq_none_iff.mpr noValue,
          findSome?_reverse_eq_none_iff.mpr noColumn, located]
        rfl
    | nothing noId noValue noColumn unnamed =>
        have missing := Parameter.find?_hasName_eq_none_iff.mpr unnamed
        rw [findSome?_reverse_eq_none_iff.mpr noId, findSome?_reverse_eq_none_iff.mpr noValue,
          findSome?_reverse_eq_none_iff.mpr noColumn, missing]
        rfl
  · rintro rfl
    cases byId : calls.reverse.findSome? HintCall.shardId? with
    | some id => exact .shardId (findSome?_reverse_eq_some_iff.mp byId)
    | none =>
        have noId := findSome?_reverse_eq_none_iff.mp byId
        cases byValue : calls.reverse.findSome? HintCall.shardValue? with
        | some value => exact .shardValue noId (findSome?_reverse_eq_some_iff.mp byValue)
        | none =>
            have noValue := findSome?_reverse_eq_none_iff.mp byValue
            cases byColumn : calls.reverse.findSome? (HintCall.columnValue? column) with
            | some value =>
                exact .columnValue noId noValue (findSome?_reverse_eq_some_iff.mp byColumn)
            | none =>
                have noColumn := findSome?_reverse_eq_none_iff.mp byColumn
                cases located : placeholders.find? (Parameter.hasName column) with
                | some found =>
                    obtain ⟨before, after, listed, named, first⟩ :=
                      Parameter.find?_hasName_eq_some_iff.mp located
                    exact .parameter noId noValue noColumn listed named first
                | none =>
                    exact .nothing noId noValue noColumn
                      (Parameter.find?_hasName_eq_none_iff.mp located)

/-- A source is of no use to a rule: a name that is blank or spells a number too large, a value without an integer
view, or nothing at all. -/
inductive Useless (rule : ShardRule) : ShardSource → ShardFault → Prop where
  | blankId {id : String} (blank : Text.isBlankText id = true) :
      Useless rule (.shardId id) .emptyShardId
  | largeId {id : String} {number : Nat}
      (spelled : Topology.spelledNumber? (Text.trimLetters id.toList) = some number)
      (large : rule.modulus.toNat ≤ number) :
      Useless rule (.shardId id) (.shardIdRange number rule.modulus.toNat)
  | noInteger {value : Value} (noView : value.integerView? = none) :
      Useless rule (.value value) (.noInteger value)
  | nothing : Useless rule .nothing (.noSource rule.column)

end ShardSource

namespace Topology

variable {topology : Topology} {name table : String} {database : Database} {rule : ShardRule}

/-- What the source tells about the shard of a table. -/
def answer (topology : Topology) (name table column : String) :
    ShardSource → Except Fault String
  | .shardId id => topology.byId name table id
  | .value told => topology.byValue name table told
  | .nothing => .error (.shard table (.noSource column))

/-- The hints and the parameters are asked for a source, and the source for the shard. -/
theorem byHints_eq_answer (found : topology.database? name = some database)
    (ruled : database.rule? table = some rule) (hints : Hints) (parameters : Parameters) :
    topology.byHints name table hints parameters =
      topology.answer name table rule.column (hints.source rule.column parameters.entries) := by
  rw [byHints, sharded_of_rule found ruled, ok_bind, Hints.source,
    ← parameters.map_snd_find? rule.column]
  dsimp only
  cases hints.shardId with
  | some id => rfl
  | none =>
      cases hints.shardValue with
      | some value => rfl
      | none =>
          cases hints.columnValue? rule.column with
          | some value => rfl
          | none => cases parameters.find? rule.column <;> rfl

/-- A source that is of no use is refused. -/
theorem answer_of_useless (found : topology.database? name = some database)
    (ruled : database.rule? table = some rule) {source : ShardSource} {cause : ShardFault}
    (useless : source.Useless rule cause) :
    topology.answer name table rule.column source = .error (.shard table cause) := by
  cases useless with
  | blankId blank =>
      rw [Text.isBlankText, List.all_eq_true, ← Text.trimLetters_eq_nil_iff] at blank
      exact byId_of_blank found ruled blank
  | largeId spelled large => exact byId_of_large found ruled spelled large
  | noInteger noView => exact byValue_of_noView found ruled noView
  | nothing => rfl

/-- Whatever hints are given, in whatever order and how often, and whatever the parameters are called, exactly one
source decides the shard of a table: the shard named last, or else the value given last for all tables, or else the
value given last for the shard column under any spelling, or else the first parameter of its name under any
spelling, or else nothing. The answer is that of the source that decides, also when that is of no use. -/
theorem answer_of_given (found : topology.database? name = some database)
    (ruled : database.rule? table = some rule) (calls : List HintCall) (parameters : Parameters) :
    (∃! source, ShardSource.Decides rule.column calls parameters.entries source) ∧
    ∀ source, ShardSource.Decides rule.column calls parameters.entries source →
      topology.byHints name table (Hints.given calls) parameters =
        topology.answer name table rule.column source ∧
      ∀ cause, source.Useless rule cause →
        topology.byHints name table (Hints.given calls) parameters = .error (.shard table cause) := by
  refine ⟨⟨_, ShardSource.decides_iff.mpr rfl, fun _ => ShardSource.decides_iff.mp⟩, ?_⟩
  intro source decides
  have answered := byHints_eq_answer found ruled (Hints.given calls) parameters
  rw [← ShardSource.decides_iff.mp decides] at answered
  refine ⟨answered, fun cause useless => ?_⟩
  rw [answered, answer_of_useless found ruled useless]

/-- The shard is named twice, and a value is given in between. -/
def renamedShard : List HintCall :=
  [.shard "0", .value (.integer 4), .shard "2"]

/-- The value of the column is given twice, and it is absent in the end. -/
def withdrawnValue : List HintCall :=
  [.column "CUSTOMER_ID" (.integer 4), .column "Customer_Id" .null, .column "city" (.integer 1)]

theorem answer_of_overriddenHints :
    shop.byHints "shop" "orders" (Hints.given renamedShard) .empty = .ok "_2" ∧
      shop.byHints "shop" "orders" (Hints.given withdrawnValue)
          (.ofList [⟨some "customer_id", .integer 5⟩]) =
        .error (.shard "orders" (.noInteger .null)) := by
  have found : shop.database? "shop" = some shopDatabase := rfl
  have ruled : shopDatabase.rule? "orders" = some ⟨"customer_id", 3⟩ := rfl
  obtain ⟨-, named⟩ := answer_of_given found ruled renamedShard .empty
  obtain ⟨-, valued⟩ := answer_of_given found ruled withdrawnValue
    (.ofList [⟨some "customer_id", .integer 5⟩])
  have lastShard : LastGiven HintCall.shardId? renamedShard "2" :=
    ⟨[.shard "0", .value (.integer 4)], .shard "2", [], rfl, rfl, fun _ => nofun⟩
  have lastValue : LastGiven (HintCall.columnValue? "customer_id") withdrawnValue .null :=
    ⟨[.column "CUSTOMER_ID" (.integer 4)], .column "Customer_Id" .null, [.column "city" (.integer 1)],
      rfl, by decide, by decide⟩
  have noId : NeverGiven HintCall.shardId? withdrawnValue := by
    simp [NeverGiven, withdrawnValue, HintCall.shardId?]
  have noValue : NeverGiven HintCall.shardValue? withdrawnValue := by
    simp [NeverGiven, withdrawnValue, HintCall.shardValue?]
  refine ⟨(named _ (.shardId lastShard)).1.trans (by decide), ?_⟩
  exact (valued _ (.columnValue noId noValue lastValue)).2 _ (.noInteger rfl)

end Topology

end SqlTemplate
