import Mathlib.Algebra.GroupWithZero.Nat
import SqlTemplate.Proofs.Composer.Verdict
import SqlTemplate.Proofs.Melt.Living

/-!
This file compares two composers whose tokens are the same but for the dead ones. Wherever these stand, the
statements are the same, and so are the faults, up to the places at which brackets go wrong.
-/

namespace SqlTemplate.Composer

open Nesting Melt Statement

variable {first second : Composer}

/-- Two composers of the same statement: what they would render differs in dead tokens only, and both melt
them. -/
structure Alike (first second : Composer) : Prop where
  context : first.context = second.context
  firstMelts : first.melts = true
  secondMelts : second.melts = true
  firstUsed : first.misuse = none
  secondUsed : second.misuse = none
  tokens : living first.tokens = living second.tokens

/-- Dead tokens bring no parameter. -/
theorem Alike.given (alike : first.Alike second) : first.given = second.given := by
  have operands : first.tokens.filter Token.isOperand = second.tokens.filter Token.isOperand := by
    rw [← filter_isOperand_alive, ← filter_isOperand_alive second.tokens]
    exact congrArg (List.filter Token.isOperand) alike.tokens
  rw [Composer.given, Composer.given, alike.context, (shares_eq_of_operands _ operands).1]

/-- The brackets go wrong in both or in none, and at the same place when dead tokens are not counted. -/
theorem Alike.imbalance (alike : first.Alike second) :
    (imbalance? (first.tokens.map mark)).map (Imbalance.rename (rank first.tokens)) =
      (imbalance? (second.tokens.map mark)).map (Imbalance.rename (rank second.tokens)) := by
  rw [← imbalance?_living, ← imbalance?_living, alike.tokens]

/-- When the brackets are balanced, the same is left of both. -/
theorem Alike.build_of_balanced (alike : first.Alike second) (firstBalanced : Balanced first.tokens)
    (secondBalanced : Balanced second.tokens) : first.build = second.build := by
  obtain ⟨kept, melted⟩ := exists_melt firstBalanced
  have secondMelted : melt second.tokens = .ok kept := by
    rw [← melt_living secondBalanced, ← alike.tokens, melt_living firstBalanced, melted]
  rw [build_of_melt alike.firstMelts alike.firstUsed melted,
    build_of_melt alike.secondMelts alike.secondUsed secondMelted, alike.context]

/-- Dead tokens are invisible. Composers whose tokens are the same without them route their tables by the same
parameters and build the same statement or fail with the same fault. Only a bracket without a partner may be
found at another place, but with the same number of living tokens before it. When the calls of the locator
return, so do both builds. -/
theorem build_of_alike (first second : Composer) (alike : first.Alike second) :
    first.given = second.given ∧
      (first.build = second.build ∨
        ∃ one other, first.build = .error (.state (imbalanceFault one)) ∧
          second.build = .error (.state (imbalanceFault other)) ∧
          one.rename (rank first.tokens) = other.rename (rank second.tokens)) ∧
      (first.context.Returns →
        first.build ≠ .error .zeroDivisor ∧ second.build ≠ .error .zeroDivisor) := by
  refine ⟨alike.given, ?_, fun returns => ⟨build_ne_zeroDivisor returns, ?_⟩⟩
  · have same := alike.imbalance
    cases firstWrong : imbalance? (first.tokens.map mark) with
    | none =>
        rw [firstWrong, Option.map_none, eq_comm, Option.map_eq_none_iff] at same
        left
        exact alike.build_of_balanced ((balanced_iff_imbalance?_eq_none _).mpr firstWrong)
          ((balanced_iff_imbalance?_eq_none _).mpr same)
    | some one =>
        rw [firstWrong, Option.map_some, eq_comm, Option.map_eq_some_iff] at same
        obtain ⟨other, secondWrong, renamed⟩ := same
        right
        refine ⟨one, other, ?_, ?_, renamed.symm⟩
        · exact build_of_refused alike.firstMelts (.imbalance alike.firstUsed firstWrong)
        · exact build_of_refused alike.secondMelts (.imbalance alike.secondUsed secondWrong)
  · rw [alike.context] at returns
    exact build_ne_zeroDivisor returns

end SqlTemplate.Composer

namespace SqlTemplate.Locator

/-- A month has a shard, whose name has two digits. -/
def monthSuffix (table : String) (value : Value) : Except Fault String :=
  match value with
  | .integer month =>
      if 1 ≤ month ∧ month ≤ 12 then
        .ok ((if month < 10 then "_0" else "_") ++ Text.integer month.toInt)
      else .error (.shard table (.worded (value.plain ++ " is not a month")))
  | _ => .error (.shard table (.worded (value.plain ++ " is not a month")))

/-- A locator that is no topology. It knows the sales, and spreads their orders over the months of a year. -/
def monthly : Locator where
  dialect? database := if database = "sales" then some .postgreSql else none
  isSharded _ table := table = "orders"
  byId _ _ shardId := .ok ("_" ++ shardId)
  byValue _ table value := monthSuffix table value
  byHints _ table hints parameters :=
    let told := (hints.columnValue? "order_month").or
      ((parameters.find? "order_month").map fun entry => entry.2.value)
    if table = "orders" then
      told.elim (.error (.shard table (.worded "no month given"))) (monthSuffix table)
    else .error (.shard table (.worded "not sharded"))

theorem monthSuffix_ne_zeroDivisor (table : String) (value : Value) :
    monthSuffix table value ≠ .error .zeroDivisor := by
  rw [monthSuffix.eq_def]
  split
  · split <;> nofun
  · nofun

/-- The calls of the locator return. -/
theorem returns_monthly : monthly.Returns := by
  intro name table fails
  cases fails with
  | byId shardId failed => cases failed
  | byValue value failed => exact monthSuffix_ne_zeroDivisor table value failed
  | byHints hints parameters failed =>
      simp only [monthly] at failed
      split at failed
      · cases told : (hints.columnValue? "order_month").or
            ((parameters.find? "order_month").map fun entry => entry.2.value) with
        | none =>
            rw [told] at failed
            cases failed
        | some value =>
            rw [told] at failed
            exact monthSuffix_ne_zeroDivisor table value failed
      · cases failed

end SqlTemplate.Locator

namespace SqlTemplate.Composer

open Melt

/-- The sales of a year, found by the month. -/
def salesContext : Context where
  chosenDialect := some .postgreSql
  database := some "sales"
  topology := some Locator.monthly

/-- The orders of a month with dead tokens between all others: behind the lead, in a group of their own, and
between a connective and its operand. One of the dead tokens has a month of its own. -/
def crowdedOrders : Composer where
  tokens :=
    [.keyword .source, .table { logicalName := "orders" }, .keyword .condition, .omitted,
      .bracket .opening,
      .columnExpression "order_month" { template := "", isAbsent := true, values := [.integer 9] },
      .bracket .closing, .operator .conjunction,
      .expression { template := "? ?", isAbsent := true, values := [.null] },
      .columnExpression "order_month" { template := "\x7b\x7d = ?", values := [.integer 4] }]
  context := salesContext

/-- The same orders without a dead token. -/
def sparseOrders : Composer where
  tokens := living crowdedOrders.tokens
  context := salesContext

/-- The orders of a month that is absent, and all orders. -/
def monthlessOrders (condition : List Token) : Composer where
  tokens := [.keyword .source, .table { logicalName := "orders" }] ++ condition
  context := salesContext

/-- The month that melts away leads to no shard. -/
theorem build_of_crowdedOrders :
    crowdedOrders.Alike sparseOrders ∧ salesContext.Returns ∧
      crowdedOrders.build = .ok ⟨"FROM \"orders_04\" WHERE \"order_month\" = $1",
        ⟨[⟨⟨some "order_month", .integer 4⟩, 1⟩]⟩⟩ ∧
      sparseOrders.build = .ok ⟨"FROM \"orders_04\" WHERE \"order_month\" = $1",
        ⟨[⟨⟨some "order_month", .integer 4⟩, 1⟩]⟩⟩ ∧
      (monthlessOrders [.columnExpression "order_month"
        { template := "\x7b\x7d = ?", isAbsent := true, values := [.integer 9] }]).build =
          .error (.shard "orders" (.worded "no month given")) ∧
      (monthlessOrders []).build = .error (.shard "orders" (.worded "no month given")) := by
  have returns : salesContext.Returns := by
    intro locator chosen
    cases chosen
    exact Locator.returns_monthly
  have alike : crowdedOrders.Alike sparseOrders := ⟨rfl, rfl, rfl, rfl, rfl, by decide⟩
  have built : crowdedOrders.build = .ok ⟨"FROM \"orders_04\" WHERE \"order_month\" = $1",
      ⟨[⟨⟨some "order_month", .integer 4⟩, 1⟩]⟩⟩ := by
    decide
  have monthless : (monthlessOrders [.columnExpression "order_month"
      { template := "\x7b\x7d = ?", isAbsent := true, values := [.integer 9] }]).Alike
        (monthlessOrders []) := ⟨rfl, rfl, rfl, rfl, rfl, by decide⟩
  have failed : (monthlessOrders []).build = .error (.shard "orders" (.worded "no month given")) := by
    decide
  refine ⟨alike, returns, built, ?_, ?_, failed⟩
  · rcases (build_of_alike _ _ alike).2.1 with same | ⟨_, _, refused, -⟩
    · rw [← same, built]
    · rw [built] at refused
      cases refused
  · rcases (build_of_alike _ _ monthless).2.1 with same | ⟨_, _, -, refused, -⟩
    · rw [same, failed]
    · rw [failed] at refused
      cases refused

end SqlTemplate.Composer
