import SqlTemplate.Proofs.Composer.Faults
import SqlTemplate.Proofs.Context.Changes
import SqlTemplate.Proofs.Context.PhysicalName
import SqlTemplate.Proofs.Topology.Declaration
import SqlTemplate.Proofs.Topology.Precedence

/-!
This file says what a table is called in a context that a caller has reached. The database of such a context is
known, and a table is looked up only when its database declares it, so no look-up fails: a table keeps its name, or
its shard follows the name, or what was to tell the shard is refused.
-/

namespace SqlTemplate

/-- What tells the shard of the table, in the reference itself or by the hints and the parameters. -/
def TableRef.source (reference : TableRef) (hints : Hints) (column : String)
    (placeholders : List Parameter) : ShardSource :=
  match reference.shard with
  | .shardId id => .shardId id
  | .shardValue told => .value told
  | _ => hints.source column placeholders

/-- What becomes of a sharded table. The shard follows its name, or the source is refused, or a number is to be divided
by a modulus of zero. -/
inductive Resolved (rule : ShardRule) (separator table : String) (source : ShardSource) :
    Except Fault String → Prop where
  | shard {id : String} (named : id ≠ "") :
      Resolved rule separator table source (.ok (table ++ (separator ++ id)))
  | refused {cause : ShardFault} (useless : source.Useless rule cause) :
      Resolved rule separator table source (.error (.shard table cause))
  | zeroDivisor {value : Value} {number : Int64} (told : source = .value value)
      (view : value.integerView? = some number) (zero : rule.modulus = 0) :
      Resolved rule separator table source (.error .zeroDivisor)

/-- A shard cannot be named because its table was looked up in vain. -/
inductive ShardFault.IsLookUp : ShardFault → Prop where
  | unknownDatabase (name : String) : IsLookUp (.unknownDatabase name)
  | notSharded (name : String) : IsLookUp (.notSharded name)

/-- The name of a shard is not that of its table. -/
theorem Resolved.ne_ok {rule : ShardRule} {separator table : String} {source : ShardSource}
    {outcome : Except Fault String} (resolved : Resolved rule separator table source outcome) :
    outcome ≠ .ok table := by
  intro named
  cases resolved with
  | shard nonempty =>
      have same := Except.ok.inj named
      simp at same
      exact nonempty same.2
  | refused useless => cases named
  | zeroDivisor told view zero => cases named

/-- No source is refused because its table was looked up in vain. -/
theorem Resolved.ne_lookUp {rule : ShardRule} {separator table : String} {source : ShardSource}
    {outcome : Except Fault String} (resolved : Resolved rule separator table source outcome)
    {blamed : String} {cause : ShardFault} (lookUp : cause.IsLookUp) :
    outcome ≠ .error (.shard blamed cause) := by
  rintro rfl
  cases resolved with
  | refused useless => cases useless <;> cases lookUp

theorem natural_ne_empty (number : Nat) : Text.natural number ≠ "" := by
  intro empty
  exact Text.naturalLetters_ne_nil number (by simpa [Text.natural] using empty)

namespace Topology

variable {topology : Topology} {name table : String} {database : Database} {rule : ShardRule}

/-- A modulus of zero divides no number. -/
theorem byValue_of_zeroModulus (found : topology.database? name = some database)
    (ruled : database.rule? table = some rule) (zero : rule.modulus = 0) {value : Value}
    {number : Int64} (view : value.integerView? = some number) :
    topology.byValue name table value = .error .zeroDivisor := by
  have undivided : shardNumber table rule value = .error .zeroDivisor := by
    rw [shardNumber, view]
    exact if_pos zero
  rw [byValue, sharded_of_rule found ruled, ok_bind]
  dsimp only
  rw [undivided, error_bind]

/-- The answer of any source resolves the table. -/
theorem resolved_answer (found : topology.database? name = some database)
    (ruled : database.rule? table = some rule) (source : ShardSource) :
    Resolved rule database.separator table source
      ((topology.answer name table rule.column source).map (table ++ ·)) := by
  cases source with
  | shardId id =>
      rw [answer]
      by_cases nothing : Text.trimLetters id.toList = []
      · rw [byId_of_blank found ruled nothing]
        rw [Text.trimLetters_eq_nil_iff, ← List.all_eq_true] at nothing
        exact .refused (.blankId nothing)
      · by_cases fits : ∀ number, spelledNumber? (Text.trimLetters id.toList) = some number →
          number < rule.modulus.toNat
        · rw [byId_of_fits found ruled nothing fits]
          exact .shard fun empty => nothing (String.ofList_inj.mp empty)
        · simp only [not_forall, Nat.not_lt] at fits
          obtain ⟨number, spelled, large⟩ := fits
          rw [byId_of_large found ruled spelled large]
          exact .refused (.largeId spelled large)
  | value told =>
      cases view : told.integerView? with
      | none =>
          rw [answer, byValue_of_noView found ruled view]
          exact .refused (.noInteger view)
      | some number =>
          by_cases zero : rule.modulus = 0
          · rw [answer, byValue_of_zeroModulus found ruled zero view]
            exact .zeroDivisor rfl view zero
          · have positive : 0 < rule.modulus.toNat := by
              rw [Nat.pos_iff_ne_zero, ne_eq, ← UInt32.toNat_zero, UInt32.toNat_inj]
              exact zero
            rw [answer, byValue_of_view found ruled positive view]
            exact .shard (natural_ne_empty _)
  | nothing => exact .refused .nothing

end Topology

namespace Context

variable {context : Context} {topology : Topology} {reference : TableRef}

/-- A table keeps its name without a database, when it is never sharded, and when no table that the database declares
agrees with it up to the case of Latin letters. -/
inductive KeepsName (context : Context) (topology : Topology) (reference : TableRef) : Prop where
  | noDatabase (without : context.database = none)
  | disabled (never : reference.shard = .disabled)
  | undeclared {name : String} {database : Database} (within : context.database = some name)
      (found : topology.database? name = some database)
      (disagree : ∀ entry ∈ database.tables.entries,
        Text.sameName entry.1 reference.logicalName = false)

/-- A table that does not keep its name is routed by the declaration that answers for it. -/
structure IsRouted (context : Context) (topology : Topology) (reference : TableRef) (name : String)
    (database : Database) (rule : ShardRule) : Prop where
  within : context.database = some name
  found : topology.database? name = some database
  declared : ∃ declared, database.Answers reference.logicalName declared rule
  enabled : reference.shard ≠ .disabled

theorem physicalName_of_keepsName (chosen : context.topology = some topology.locator)
    (keeps : context.KeepsName topology reference) (parameters : Parameters) :
    context.physicalName parameters reference = .ok reference.logicalName := by
  cases keeps with
  | noDatabase without => rw [physicalName, chosen, without]
  | disabled never =>
      rw [physicalName, chosen]
      cases context.database with
      | none => rfl
      | some name =>
          dsimp only
          rw [never]
          rfl
  | undeclared within found disagree =>
      have noRule := Database.rule?_eq_none_iff.mpr disagree
      exact (Topology.unsharded_of_noRule found noRule).physicalName context parameters reference
        chosen within rfl

/-- The physical name of any other table is resolved by what tells its shard. -/
theorem resolved_physicalName (chosen : context.topology = some topology.locator) {name : String}
    {database : Database} {rule : ShardRule}
    (routed : context.IsRouted topology reference name database rule) (parameters : Parameters) :
    Resolved rule database.separator reference.logicalName
      (reference.source context.hints rule.column parameters.entries)
      (context.physicalName parameters reference) := by
  obtain ⟨within, found, declared, enabled⟩ := routed
  have ruled := Database.rule?_eq_some_iff.mpr declared
  have sharded := Topology.isSharded_of_rule found ruled
  have resolved := Topology.resolved_answer found ruled
    (reference.source context.hints rule.column parameters.entries)
  rw [TableRef.source] at resolved ⊢
  cases selected : reference.shard with
  | disabled => exact absurd selected enabled
  | shardId id =>
      rw [selected] at resolved
      rw [physicalName_shardId chosen within sharded selected]
      exact resolved
  | shardValue told =>
      rw [selected] at resolved
      rw [physicalName_shardValue chosen within sharded selected]
      exact resolved
  | fromHints =>
      rw [selected] at resolved
      rw [physicalName_fromHints chosen within sharded selected, Topology.byHints_locator,
        Topology.byHints_eq_answer found ruled]
      exact resolved

/-- In a context whose database is known a table keeps its name or is routed. -/
theorem keepsName_or_isRouted (chosen : context.topology = some topology.locator)
    (consistent : context.Consistent context.directory) (reference : TableRef) :
    context.KeepsName topology reference ∨
      ∃ name database rule, context.IsRouted topology reference name database rule := by
  cases within : context.database with
  | none => exact .inl (.noDatabase within)
  | some name =>
      obtain ⟨dialectOf?, dialect, present, known, -⟩ := consistent name within
      rw [directory, chosen] at present
      cases present
      obtain ⟨database, found, -⟩ := Option.map_eq_some_iff.mp known
      by_cases never : reference.shard = .disabled
      · exact .inl (.disabled never)
      · cases ruled : database.rule? reference.logicalName with
        | none => exact .inl (.undeclared within found (Database.rule?_eq_none_iff.mp ruled))
        | some rule =>
            exact .inr ⟨name, database, rule, within, found, Database.rule?_eq_some_iff.mp ruled, never⟩

/-- A table that is routed does not keep its name. -/
theorem not_keepsName_of_isRouted {name : String} {database : Database} {rule : ShardRule}
    (routed : context.IsRouted topology reference name database rule) :
    ¬ context.KeepsName topology reference := by
  obtain ⟨within, found, declared, enabled⟩ := routed
  intro keeps
  cases keeps with
  | noDatabase without =>
      rw [without] at within
      cases within
  | disabled never => exact enabled never
  | undeclared alsoWithin alsoFound disagree =>
      rw [within] at alsoWithin
      cases alsoWithin
      rw [found] at alsoFound
      cases alsoFound
      obtain ⟨other, answers⟩ := declared
      have agrees := answers.agrees
      rw [disagree _ answers.declares] at agrees
      cases agrees

/-- A caller who begins with a topology keeps it, and the database that is chosen is one of its own. -/
theorem consistent_run (topology : Topology) (changes : List Change) :
    let reached := ({ topology := some topology.locator } : Context).run changes
    reached.topology = some topology.locator ∧ reached.Consistent reached.directory := by
  intro reached
  have same : reached = _ := run_eq_runIn changes
  have chosen : reached.topology = some topology.locator := by
    rw [same, topology_runIn]
  have consistent : reached.Consistent (Context.directory { topology := some topology.locator }) := by
    rw [same]
    exact runIn_keeps (fun _ _ _ kept accepted => kept.next accepted) changes nofun
  refine ⟨chosen, ?_⟩
  rw [directory, chosen]
  exact consistent

/-- In a context whose database is known no table is looked up in vain. -/
theorem physicalName_ne_lookUp (chosen : context.topology = some topology.locator)
    (consistent : context.Consistent context.directory) (parameters : Parameters)
    (reference : TableRef) {table : String} {cause : ShardFault} (lookUp : cause.IsLookUp) :
    context.physicalName parameters reference ≠ .error (.shard table cause) := by
  rcases keepsName_or_isRouted chosen consistent reference with keeps | ⟨_, _, rule, routed⟩
  · rw [physicalName_of_keepsName chosen keeps]
    nofun
  · exact (resolved_physicalName chosen routed parameters).ne_lookUp lookUp

/-- Whatever a caller changes in a context that begins with a topology, in whatever order and with whatever success, no
table is looked up in vain, and no program that makes these changes fails to build for that. A table keeps its name
exactly when there is no database, when it is never sharded, or when the database declares none that agrees with it up
to the case of Latin letters. Of any other table the shard follows the name as it is written, with the separator in
between, or what tells the shard is refused, or a number is to be divided by a modulus of zero, which does not come
about in a valid topology. -/
theorem physicalName_of_changes (topology : Topology) (changes : List Change)
    (parameters : Parameters) (reference : TableRef) :
    let context := ({ topology := some topology.locator } : Context).run changes
    let outcome := context.physicalName parameters reference
    (outcome = .ok reference.logicalName ↔ context.KeepsName topology reference) ∧
    (¬ context.KeepsName topology reference → ∃ name database rule,
      context.IsRouted topology reference name database rule ∧
      Resolved rule database.separator reference.logicalName
        (reference.source context.hints rule.column parameters.entries) outcome) ∧
    (∀ table cause, cause.IsLookUp → outcome ≠ .error (.shard table cause)) ∧
    (topology.validate = .ok () → outcome ≠ .error .zeroDivisor) ∧
    ∀ program, program.filterMap Step.change? = changes → ∀ table cause, cause.IsLookUp →
      ((Composer.fresh (some topology.locator)).run program).build ≠ .error (.shard table cause) := by
  intro context outcome
  obtain ⟨chosen, consistent⟩ := consistent_run topology changes
  refine ⟨⟨fun named => ?_, fun keeps => physicalName_of_keepsName chosen keeps parameters⟩,
    fun moves => ?_,
    fun table cause lookUp => physicalName_ne_lookUp chosen consistent parameters reference lookUp,
    fun valid failed => ?_, ?_⟩
  · rcases keepsName_or_isRouted chosen consistent reference with keeps | ⟨_, _, rule, routed⟩
    · exact keeps
    · exact absurd named (resolved_physicalName chosen routed parameters).ne_ok
  · rcases keepsName_or_isRouted chosen consistent reference with keeps | ⟨name, database, rule, routed⟩
    · exact absurd keeps moves
    · exact ⟨name, database, rule, routed, resolved_physicalName chosen routed parameters⟩
  · exact (returns_of_validate chosen valid).physicalName_ne_zeroDivisor failed
  · rintro program rfl table cause lookUp failed
    rcases Composer.fault_of_build failed with ⟨_, blamed⟩ | ⟨given, asked, unnamed⟩
    · cases blamed
    · rw [Composer.context_run] at unnamed
      exact physicalName_ne_lookUp chosen consistent given asked lookUp unnamed

/-- A table in capitals, which is routed by the value of its reference. -/
def capitalOrders : TableRef :=
  { logicalName := "ORDERS", shard := .shardValue (.integer 5) }

/-- The database of the shop is chosen, and another one is refused. -/
def shopChosen : List Change :=
  [.database "shop", .database "warehouse"]

theorem physicalName_of_capitalOrders :
    let context := ({ topology := some Topology.shop } : Context).run shopChosen
    context.physicalName .empty capitalOrders = .ok "ORDERS_2" ∧
      ¬ context.KeepsName Topology.shop capitalOrders ∧
      ∃ name database rule, context.IsRouted Topology.shop capitalOrders name database rule := by
  intro context
  obtain ⟨keeps, routed, -⟩ :=
    physicalName_of_changes Topology.shop shopChosen .empty capitalOrders
  have named : context.physicalName .empty capitalOrders = .ok "ORDERS_2" := by decide
  have moves : ¬ context.KeepsName Topology.shop capitalOrders := by
    rw [← keeps, named]
    decide
  obtain ⟨name, database, rule, isRouted, -⟩ := routed moves
  exact ⟨named, moves, name, database, rule, isRouted⟩

/-- A shop whose orders are spread over no shard at all. -/
def undividedDatabase : Database :=
  Database.declare { dialect := .postgreSql } "orders" ⟨"customer_id", 0⟩

/-- The topology of that shop, which is not valid. -/
def undivided : Topology := Topology.empty.register "shop" undividedDatabase

/-- With a modulus of zero a table neither keeps its name nor gets another one, and nothing that was to tell its shard
is refused. -/
theorem physicalName_of_zeroModulus :
    let context := ({ topology := some undivided } : Context).run [.database "shop"]
    let reference : TableRef := { logicalName := "orders", shard := .shardValue (.integer 5) }
    let outcome := context.physicalName .empty reference
    ¬ context.KeepsName undivided reference ∧ outcome = .error .zeroDivisor ∧
      (∀ physicalName, outcome ≠ .ok physicalName) ∧
      ∀ table cause, outcome ≠ .error (.shard table cause) := by
  intro context reference outcome
  have routed : context.IsRouted undivided reference "shop" undividedDatabase ⟨"customer_id", 0⟩ :=
    ⟨rfl, rfl, ⟨"orders", by decide, by decide, by decide⟩, nofun⟩
  have failed : outcome = .error .zeroDivisor := by decide
  refine ⟨not_keepsName_of_isRouted routed, failed, ?_, ?_⟩
  · rw [failed]
    exact fun _ => nofun
  · rw [failed]
    exact fun _ _ => nofun

end Context

end SqlTemplate
