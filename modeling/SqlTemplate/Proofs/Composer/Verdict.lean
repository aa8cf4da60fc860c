import Mathlib.Algebra.GroupWithZero.Nat
import SqlTemplate.Proofs.Composer.Faults
import SqlTemplate.Proofs.Composer.Routing
import SqlTemplate.Proofs.Context.Changes
import SqlTemplate.Proofs.Statement.Refusal

/-!
This file says of the composed tokens when a statement is built, and with which fault it is refused
otherwise. The composer looks for faults in four places, one after the other, and a dead token causes none
of them.
-/

namespace SqlTemplate

namespace Statement

/-- Nothing stands in the way of a token when its template has its slot and its table has a name. -/
theorem obstacle?_eq_none_iff (named : TableRef → Except Fault String) (token : Token) :
    obstacle? named token = none ↔
      (token.isDead = false → token.hasOneSlot = true) ∧
        ∀ reference, token = .table reference →
          ∃ physicalName, named reference = .ok physicalName := by
  cases token with
  | table reference =>
      rw [obstacle?]
      cases found : named reference with
      | ok physicalName => simp [Token.hasOneSlot, found]
      | error fault =>
          apply iff_of_false
          · intro nothing
            cases nothing
          · intro both
            obtain ⟨physicalName, resolved⟩ := both.2 reference rfl
            rw [found] at resolved
            cases resolved
  | columnExpression columnName body =>
      cases absent : body.isAbsent <;>
        simp [obstacle?, Token.isDead, Token.hasOneSlot, absent]
  | _ => simp [obstacle?, Token.hasOneSlot]

end Statement

namespace Composer

open Nesting Statement

variable {composer : Composer}

/-- The parameters that the composed tokens bring. -/
def given (composer : Composer) : Parameters :=
  .ofList ((shares composer.context.supply composer.tokens).flatMap brought)

/-- Each composed token that is not dead gets its values, and the supply is used up. -/
structure Paired (composer : Composer) : Prop where
  valuesFit : ∀ token ∈ composer.tokens, token.isDead = false → token.ValuesFit
  supplyFits : composer.context.supply.length = demand composer.tokens

/-- Nothing is wrong with the composed statement. -/
structure Buildable (composer : Composer) : Prop where
  notMisused : composer.misuse = none
  balanced : Balanced composer.tokens
  paired : composer.Paired
  slots : ∀ token ∈ composer.tokens, token.isDead = false → token.hasOneSlot = true
  resolves : ∀ reference, .table reference ∈ composer.tokens →
    ∃ physicalName, composer.context.physicalName composer.given reference = .ok physicalName

/-- The composed statement is refused with a fault. Each place where faults are looked for comes into
question only when there are none in the places before it. -/
inductive Refused (composer : Composer) : Fault → Prop where
  | misuse {cause : StateFault} (misused : composer.misuse = some cause) :
      Refused composer (.state cause)
  | imbalance {imbalance : Imbalance} (notMisused : composer.misuse = none)
      (wrong : imbalance? (composer.tokens.map Melt.mark) = some imbalance) :
      Refused composer (.state (Melt.imbalanceFault imbalance))
  | pairing {kept : List Token} {cause : StateFault} (notMisused : composer.misuse = none)
      (melted : Melt.melt composer.tokens = .ok kept)
      (unpaired : Unpaired composer.context.supply kept cause) : Refused composer (.state cause)
  | writing {fault : Fault} (notMisused : composer.misuse = none)
      (balanced : Balanced composer.tokens) (paired : composer.Paired)
      (obstacle : composer.tokens.findSome?
        (obstacle? (composer.context.physicalName composer.given)) = some fault) :
      Refused composer fault

/-- Melting keeps what has to be paired. -/
theorem paired_iff_of_melt {kept : List Token} (melted : Melt.melt composer.tokens = .ok kept) :
    composer.Paired ↔
      Served composer.context.supply kept ∧ composer.context.supply.length = demand kept := by
  have operands := Melt.filter_isOperand_melt melted
  have alive := Melt.alive_of_melt melted
  have sameDemand : demand composer.tokens = demand kept := by
    rw [← demand_filter_isOperand, ← operands, demand_filter_isOperand]
  have sameFit : (∀ token ∈ composer.tokens, token.isDead = false → token.ValuesFit) ↔
      ∀ token ∈ kept, token.ValuesFit := by
    rw [valuesFit_iff_operands, ← operands, ← valuesFit_iff_operands]
    exact forall₂_congr fun token member => forall_prop_of_true (alive token member)
  constructor
  · rintro ⟨valuesFit, supplyFits⟩
    rw [sameDemand] at supplyFits
    exact ⟨⟨sameFit.mp valuesFit, Nat.le_of_eq supplyFits.symm⟩, supplyFits⟩
  · rintro ⟨served, used⟩
    exact ⟨sameFit.mpr served.valuesFit, used.trans sameDemand.symm⟩

/-- When the composed tokens are paired, the build is the outline of what melting leaves, written with the
parameters that the composed tokens bring. -/
theorem build_of_paired {kept : List Token} (melts : composer.melts = true)
    (notMisused : composer.misuse = none) (melted : Melt.melt composer.tokens = .ok kept)
    (paired : composer.Paired) :
    composer.build =
      (outline composer.context.dialect (composer.context.physicalName composer.given) kept >>=
        fun parts => .ok ⟨String.ofList
          (Text.trimLetters (Stretch.written (.start composer.context.dialect) (layOut parts))),
          composer.given⟩) := by
  have alive := Melt.alive_of_melt melted
  have shown := visible_of_alive alive
  obtain ⟨served, used⟩ := (paired_iff_of_melt melted).mp paired
  obtain ⟨entries, keptPaired⟩ := exists_pairFrom alive served used
  have same : Parameters.ofList entries = composer.given := by
    rw [given, (shares_of_pairFrom keptPaired).1,
      (shares_eq_of_operands _ (Melt.filter_isOperand_melt melted)).1]
  rw [← shown] at keptPaired
  rw [build_of_melt melts notMisused melted, render_of_paired keptPaired, shown, same]

/-- What is wrong with the composed tokens is wrong with what melting leaves of them. -/
theorem findSome?_obstacle?_melt {kept : List Token} (named : TableRef → Except Fault String)
    (melted : Melt.melt composer.tokens = .ok kept) :
    kept.findSome? (obstacle? named) = composer.tokens.findSome? (obstacle? named) := by
  rw [← findSome?_obstacle?_filter, Melt.filter_isOperand_melt melted, findSome?_obstacle?_filter]

theorem build_of_buildable (melts : composer.melts = true) (buildable : composer.Buildable) :
    ∃ statement, composer.build = .ok statement := by
  obtain ⟨kept, melted⟩ := Melt.exists_melt buildable.balanced
  have noObstacle : composer.tokens.findSome?
      (obstacle? (composer.context.physicalName composer.given)) = none := by
    rw [List.findSome?_eq_none_iff]
    intro token member
    rw [obstacle?_eq_none_iff]
    refine ⟨buildable.slots token member, ?_⟩
    rintro reference rfl
    exact buildable.resolves reference member
  have outlined := outline_of_obstacle? composer.context.dialect
    (composer.context.physicalName composer.given) (Melt.alive_of_melt melted)
  rw [findSome?_obstacle?_melt _ melted, noObstacle] at outlined
  obtain ⟨parts, outlined⟩ := outlined
  rw [build_of_paired melts buildable.notMisused melted buildable.paired, outlined]
  exact ⟨_, rfl⟩

theorem build_of_refused {fault : Fault} (melts : composer.melts = true)
    (refused : composer.Refused fault) : composer.build = .error fault := by
  cases refused with
  | misuse misused => rw [build, misused]
  | imbalance notMisused wrong =>
      rw [build, notMisused, finalTokens, if_pos melts, Melt.melt,
        Melt.survivors_of_imbalance wrong]
      rfl
  | pairing notMisused melted unpaired =>
      have alive := Melt.alive_of_melt melted
      have refused := pairFrom_of_unpaired alive unpaired
      rw [← visible_of_alive alive] at refused
      rw [build_of_melt melts notMisused melted, render_of_unpaired refused]
  | writing notMisused balanced paired obstacle =>
      obtain ⟨kept, melted⟩ := Melt.exists_melt balanced
      have outlined := outline_of_obstacle? composer.context.dialect
        (composer.context.physicalName composer.given) (Melt.alive_of_melt melted)
      rw [findSome?_obstacle?_melt _ melted, obstacle] at outlined
      rw [build_of_paired melts notMisused melted paired, outlined, error_bind]

/-- Nothing is wrong, or the statement is refused. -/
theorem buildable_or_refused (composer : Composer) :
    composer.Buildable ∨ ∃ fault, composer.Refused fault := by
  cases misused : composer.misuse with
  | some cause => exact .inr ⟨_, .misuse misused⟩
  | none =>
      cases wrong : imbalance? (composer.tokens.map Melt.mark) with
      | some imbalance => exact .inr ⟨_, .imbalance misused wrong⟩
      | none =>
          have balanced := (Melt.balanced_iff_imbalance?_eq_none _).mpr wrong
          obtain ⟨kept, melted⟩ := Melt.exists_melt balanced
          rcases exists_unpaired kept composer.context.supply with keptPaired | ⟨cause, unpaired⟩
          · have paired := (paired_iff_of_melt melted).mpr keptPaired
            cases obstacle : composer.tokens.findSome?
                (obstacle? (composer.context.physicalName composer.given)) with
            | some fault => exact .inr ⟨fault, .writing misused balanced paired obstacle⟩
            | none =>
                have noObstacle := List.findSome?_eq_none_iff.mp obstacle
                refine .inl ⟨misused, balanced, paired, ?_, ?_⟩
                · exact fun token member =>
                    ((obstacle?_eq_none_iff _ token).mp (noObstacle token member)).1
                · exact fun reference member =>
                    ((obstacle?_eq_none_iff _ _).mp (noObstacle _ member)).2 reference rfl
          · exact .inr ⟨_, .pairing misused melted unpaired⟩

/-- A composer remembers only calls on the last expression that found none. -/
inductive Remembered : StateFault → Prop where
  | noToken (call : ExpressionCall) : Remembered (.noToken call)
  | noExpression (call : ExpressionCall) (found : Token) : Remembered (.noExpression call found)

theorem remembered_recordMisuse {cause : StateFault} (remembered : Remembered cause)
    (earlier : ∀ misuse ∈ composer.misuse, Remembered misuse) :
    ∀ misuse ∈ (composer.recordMisuse cause).misuse, Remembered misuse := by
  rw [recordMisuse]
  cases present : composer.misuse with
  | none =>
      rintro _ ⟨⟩
      exact remembered
  | some first =>
      rintro _ ⟨⟩
      exact earlier first present

theorem remembered_changeLast (call : ExpressionCall) (change : Expression → Expression)
    (earlier : ∀ misuse ∈ composer.misuse, Remembered misuse) :
    ∀ misuse ∈ (composer.changeLast call change).misuse, Remembered misuse := by
  rw [changeLast]
  split
  · exact remembered_recordMisuse (.noToken call) earlier
  · split
    · exact earlier
    · exact remembered_recordMisuse (.noExpression call _) earlier

theorem remembered_after (step : Step) (earlier : ∀ misuse ∈ composer.misuse, Remembered misuse) :
    ∀ misuse ∈ (composer.after step).misuse, Remembered misuse := by
  cases step with
  | append clause => exact earlier
  | withoutMelting => exact earlier
  | context change => exact earlier
  | nullable value => exact remembered_changeLast .nullable _ earlier
  | setNullable isAbsent => exact remembered_changeLast .setNullable _ earlier
  | bind value => exact remembered_changeLast .bind _ earlier

theorem remembered_run (program : List Step)
    (earlier : ∀ misuse ∈ composer.misuse, Remembered misuse) :
    ∀ misuse ∈ (composer.run program).misuse, Remembered misuse := by
  induction program generalizing composer with
  | nil => exact earlier
  | cons step rest inductionHypothesis => exact inductionHypothesis (remembered_after step earlier)

/-- A dead token is never blamed, unless the composer remembers it as its misuse or the locator finds that
fault. -/
theorem misuse_of_refused {position : Nat}
    (refused : composer.Refused (.state (.deadToken position))) :
    composer.misuse = some (.deadToken position) ∨
      ∃ locator name table, composer.context.topology = some locator ∧
        locator.Fails name table (.state (.deadToken position)) := by
  generalize blamed : Fault.state (.deadToken position) = fault at refused
  cases refused with
  | misuse misused =>
      cases blamed
      exact .inl misused
  | @imbalance imbalance notMisused wrong => cases imbalance <;> cases blamed
  | pairing notMisused melted unpaired => cases unpaired <;> cases blamed
  | writing notMisused balanced paired obstacle =>
      subst blamed
      obtain ⟨token, -, found⟩ := List.exists_of_findSome?_eq_some obstacle
      rcases table_of_obstacle? found with ⟨reference, failed⟩ | ⟨template, slots, blamed⟩
      · obtain ⟨locator, name, chosen, -, fails⟩ := Context.fails_of_physicalName failed
        exact .inr ⟨locator, name, reference.logicalName, chosen, fails⟩
      · cases blamed

/-- A composer that melts builds a statement exactly when nothing is wrong with it. Otherwise it reports the
recorded misuse, or else the brackets that go wrong, or else the tokens that cannot be paired, or else the
leftmost table or column template that cannot be written. A dead token is never blamed, unless a call of the
locator fails with that very fault, as no call of a topology does. When the calls of the locator return, so does
the build. -/
theorem verdict_of_build (composer : Composer) (melts : composer.melts = true) :
    ((∃ statement, composer.build = .ok statement) ↔ composer.Buildable) ∧
      (∀ fault, composer.build = .error fault ↔ composer.Refused fault) ∧
      (∀ topology program position, composer = (fresh topology).run program →
        composer.build = .error (.state (.deadToken position)) →
          ∃ locator name table, topology = some locator ∧
            locator.Fails name table (.state (.deadToken position))) ∧
      (∀ (topology : Option Topology) program position,
        composer = (fresh (topology.map Topology.locator)).run program →
          composer.build ≠ .error (.state (.deadToken position))) ∧
      (composer.context.Returns → composer.build ≠ .error .zeroDivisor) := by
  have refusedOf {fault : Fault} (failed : composer.build = .error fault) :
      composer.Refused fault := by
    rcases composer.buildable_or_refused with buildable | ⟨cause, refused⟩
    · obtain ⟨statement, built⟩ := build_of_buildable melts buildable
      rw [built] at failed
      cases failed
    · rw [build_of_refused melts refused] at failed
      cases failed
      exact refused
  have blames (topology : Option Locator) (program : List Step) (position : Nat)
      (reached : composer = (fresh topology).run program)
      (failed : composer.build = .error (.state (.deadToken position))) :
      ∃ locator name table, topology = some locator ∧
        locator.Fails name table (.state (.deadToken position)) := by
    rcases misuse_of_refused (refusedOf failed) with misused | ⟨locator, name, table, chosen, fails⟩
    · have nothing : ∀ misuse ∈ (fresh topology).misuse, Remembered misuse := fun _ => nofun
      rw [reached] at misused
      cases remembered_run program nothing _ misused
    · rw [reached, topology_run] at chosen
      exact ⟨locator, name, table, chosen, fails⟩
  refine ⟨⟨?_, build_of_buildable melts⟩, fun fault => ⟨refusedOf, build_of_refused melts⟩, blames, ?_,
    build_ne_zeroDivisor⟩
  · rintro ⟨statement, built⟩
    rcases composer.buildable_or_refused with buildable | ⟨cause, refused⟩
    · exact buildable
    · rw [build_of_refused melts refused] at built
      cases built
  · intro topology program position reached failed
    obtain ⟨locator, name, table, chosen, fails⟩ := blames _ program position reached failed
    obtain ⟨own, -, rfl⟩ := Option.map_eq_some_iff.mp chosen
    cases Topology.routeFault_of_fails fails

/-- Two conditions on the orders of a customer. The first one has a value too many and no slot for its
column. -/
def flawedOrders (isAbsent : Bool) : Composer where
  tokens :=
    [.keyword .source, .table { logicalName := "orders" }, .keyword .condition,
      .columnExpression "status" { template := "?", values := [.integer 5, .integer 6], isAbsent },
      .operator .conjunction, .columnExpression "customer_id" { template := "\x7b\x7d = ?" }]
  context := customerOrders.context

/-- The flaws do no harm as long as the condition is absent. In a present one the values are blamed. -/
theorem verdict_of_flawedOrders :
    (∃ statement, (flawedOrders true).build = .ok statement) ∧
      (flawedOrders false).build = .error (.state (.valueCount 3 1 2)) := by
  have balanced : Balanced (flawedOrders true).tokens :=
    (Melt.balanced_iff_imbalance?_eq_none _).mpr (by decide)
  have resolves : ∀ reference, .table reference ∈ (flawedOrders true).tokens →
      ∃ physicalName, (flawedOrders true).context.physicalName (flawedOrders true).given reference =
        .ok physicalName := by
    intro reference member
    obtain rfl : reference = { logicalName := "orders" } := by
      simpa [flawedOrders] using member
    exact ⟨"orders_1", by decide⟩
  have served : Served (flawedOrders false).context.supply
      ((flawedOrders false).tokens.take 3) := ⟨by decide, by decide⟩
  constructor
  · apply (verdict_of_build (flawedOrders true) rfl).1.mpr
    exact ⟨rfl, balanced, ⟨by decide, by decide⟩, by decide, resolves⟩
  · apply ((verdict_of_build (flawedOrders false) rfl).2.1 _).mpr
    have melted : Melt.melt (flawedOrders false).tokens = .ok (flawedOrders false).tokens := by decide
    have split : (flawedOrders false).tokens = (flawedOrders false).tokens.take 3 ++
        .columnExpression "status" { template := "?", values := [.integer 5, .integer 6] } ::
          (flawedOrders false).tokens.drop 4 := rfl
    exact .pairing rfl melted (.valueCount split served (by decide))

end Composer

end SqlTemplate
