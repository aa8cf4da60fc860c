import SqlTemplate.Proofs.Topology.Shard
import SqlTemplate.Context

/-!
This file says which calls of a locator may fail for a table, and lists the faults of the ways through a topology.
Each of those blames the table, unless a rule whose modulus is zero was to divide.
-/

namespace SqlTemplate

/-- A call of the locator for the table fails. -/
inductive Locator.Fails (locator : Locator) (name table : String) (fault : Fault) : Prop where
  | byId (shardId : String) (failed : locator.byId name table shardId = .error fault)
  | byValue (value : Value) (failed : locator.byValue name table value = .error fault)
  | byHints (hints : Hints) (parameters : Parameters)
      (failed : locator.byHints name table hints parameters = .error fault)

/-- Every call of the locator returns, with an answer or with an error. A call that is to divide by zero does
neither. -/
def Locator.Returns (locator : Locator) : Prop :=
  ∀ name table, ¬ locator.Fails name table .zeroDivisor

/-- Whatever the locator of a context is, its calls return. -/
def Context.Returns (context : Context) : Prop :=
  ∀ locator, context.topology = some locator → locator.Returns

namespace Topology

variable {topology : Topology} {name table : String} {fault : Fault}

/-- The fault blames the table, or the rule of the table was to divide by zero. -/
inductive RouteFault (topology : Topology) (name table : String) : Fault → Prop where
  | shard (cause : ShardFault) : RouteFault topology name table (.shard table cause)
  | zeroDivisor {database : Database} {rule : ShardRule}
      (found : topology.sharded name table = .ok (database, rule)) (zero : rule.modulus = 0) :
      RouteFault topology name table .zeroDivisor

theorem routeFault_of_sharded (failed : topology.sharded name table = .error fault) :
    topology.RouteFault name table fault := by
  rw [sharded] at failed
  split at failed
  · cases failed
    exact .shard _
  · split at failed
    · cases failed
      exact .shard _
    · cases failed

/-- A shard number cannot be found without an integer view, or with a modulus of zero. -/
theorem routeFault_of_shardNumber {database : Database} {rule : ShardRule} {value : Value}
    (found : topology.sharded name table = .ok (database, rule))
    (failed : shardNumber table rule value = .error fault) :
    topology.RouteFault name table fault := by
  rw [shardNumber] at failed
  split at failed
  · cases failed
    exact .shard _
  · split at failed
    · rename_i zero
      cases failed
      exact .zeroDivisor found zero
    · cases failed

theorem routeFault_of_byValue {value : Value}
    (failed : topology.byValue name table value = .error fault) :
    topology.RouteFault name table fault := by
  rcases (bind_eq_error_iff _ _ _).mp failed with unsharded | ⟨⟨database, rule⟩, found, later⟩
  · exact routeFault_of_sharded unsharded
  · exact routeFault_of_shardNumber found ((bind_ok_eq_error_iff _ _ _).mp later)

theorem routeFault_of_byId {shardId : String}
    (failed : topology.byId name table shardId = .error fault) :
    topology.RouteFault name table fault := by
  rcases (bind_eq_error_iff _ _ _).mp failed with unsharded | ⟨⟨database, rule⟩, -, later⟩
  · exact routeFault_of_sharded unsharded
  · dsimp only at later
    split at later
    · cases later
      exact .shard _
    · split at later
      · cases later
        exact .shard _
      · cases later

theorem routeFault_of_byHints {hints : Hints} {parameters : Parameters}
    (failed : topology.byHints name table hints parameters = .error fault) :
    topology.RouteFault name table fault := by
  rcases (bind_eq_error_iff _ _ _).mp failed with unsharded | ⟨⟨database, rule⟩, -, later⟩
  · exact routeFault_of_sharded unsharded
  · dsimp only at later
    split at later
    · exact routeFault_of_byId later
    · split at later
      · exact routeFault_of_byValue later
      · split at later
        · exact routeFault_of_byValue later
        · split at later
          · exact routeFault_of_byValue later
          · cases later
            exact .shard _

/-- A call of a topology fails with one of these faults. -/
theorem routeFault_of_fails (fails : topology.locator.Fails name table fault) :
    topology.RouteFault name table fault := by
  cases fails with
  | byId shardId failed => exact routeFault_of_byId failed
  | byValue value failed => exact routeFault_of_byValue failed
  | byHints hints parameters failed => exact routeFault_of_byHints failed

theorem rule_of_sharded {database : Database} {rule : ShardRule}
    (found : topology.sharded name table = .ok (database, rule)) :
    topology.database? name = some database ∧ database.rule? table = some rule := by
  rw [sharded] at found
  split at found
  · cases found
  · rename_i known
    split at found
    · cases found
    · rename_i ruled
      cases found
      exact ⟨known, ruled⟩

/-- Every rule that a validated topology finds has a positive modulus. -/
theorem modulus_pos_of_sharded {database : Database} {rule : ShardRule}
    (valid : topology.validate = .ok ())
    (found : topology.sharded name table = .ok (database, rule)) : 0 < rule.modulus.toNat := by
  obtain ⟨known, ruled⟩ := rule_of_sharded found
  exact modulus_pos_of_validate valid known ruled

/-- No way through a validated topology divides by zero. -/
theorem not_routeFault_zeroDivisor (valid : topology.validate = .ok ()) :
    ¬ topology.RouteFault name table .zeroDivisor := by
  intro routeFault
  cases routeFault with
  | zeroDivisor found zero =>
      have positive := modulus_pos_of_sharded valid found
      rw [zero] at positive
      exact absurd positive (by decide)

/-- The calls of a validated topology return. -/
theorem returns_locator (valid : topology.validate = .ok ()) : topology.locator.Returns :=
  fun _ _ fails => not_routeFault_zeroDivisor valid (routeFault_of_fails fails)

end Topology

namespace Context

variable {context : Context} {parameters : Parameters} {reference : TableRef}

/-- A table has no physical name only when a call of the locator fails. -/
theorem fails_of_physicalName {fault : Fault}
    (failed : context.physicalName parameters reference = .error fault) :
    ∃ locator name, context.topology = some locator ∧ context.database = some name ∧
      locator.Fails name reference.logicalName fault := by
  rw [physicalName] at failed
  split at failed
  · rename_i locator name chosen within
    refine ⟨locator, name, chosen, within, ?_⟩
    split at failed
    · cases failed
    · dsimp only at failed
      split at failed
      · exact .byId _ ((bind_ok_eq_error_iff _ _ _).mp failed)
      · exact .byValue _ ((bind_ok_eq_error_iff _ _ _).mp failed)
      · exact .byHints _ _ ((bind_ok_eq_error_iff _ _ _).mp failed)
  · cases failed

/-- A validated topology is a locator whose calls return. -/
theorem returns_of_validate {topology : Topology}
    (chosen : context.topology = some topology.locator) (valid : topology.validate = .ok ()) :
    context.Returns := by
  intro locator own
  rw [chosen] at own
  cases own
  exact Topology.returns_locator valid

/-- With a locator whose calls return, a table is named or an error says why it is not. -/
theorem Returns.physicalName_ne_zeroDivisor (returns : context.Returns) :
    context.physicalName parameters reference ≠ .error .zeroDivisor := by
  intro failed
  obtain ⟨locator, name, chosen, -, fails⟩ := fails_of_physicalName failed
  exact returns locator chosen name reference.logicalName fails

end Context

end SqlTemplate
