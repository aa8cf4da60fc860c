import SqlTemplate.Proofs.Composer.Faults
import SqlTemplate.Proofs.Composer.Parameters
import SqlTemplate.Proofs.Topology.Shard

/-!
This file proves that the text of a statement does not tell the values that go with it. Every step from the
composed tokens to the text looks at the number of the values only, so their contents can be blanked out
before any of them.
-/

namespace SqlTemplate

namespace Token

/-- The bound values of the token are blanked out, and only their number is left. -/
def blanked (token : Token) : Token :=
  token.mapExpression fun body => { body with values := body.values.map fun _ => .null }

theorem mark_blanked (token : Token) : Melt.mark token.blanked = Melt.mark token := by
  cases token <;> rfl

theorem isDead_blanked (token : Token) : token.blanked.isDead = token.isDead := by
  cases token <;> rfl

theorem placeholders_blanked (token : Token) : token.blanked.placeholders = token.placeholders := by
  cases token <;> rfl

theorem length_boundValues_blanked (token : Token) :
    token.blanked.boundValues.length = token.boundValues.length := by
  cases token with
  | expression body => exact List.length_map _
  | columnExpression columnName body => exact List.length_map _
  | _ => rfl

theorem isBracket_blanked (token : Token) : token.blanked.isBracket = token.isBracket := by
  cases token <;> rfl

theorem isComma_blanked (token : Token) : token.blanked.isComma = token.isComma := by
  cases token <;> rfl

theorem blanked_eq_omitted_iff (token : Token) : token.blanked = .omitted ↔ token = .omitted := by
  cases token <;> simp [blanked, mapExpression]

end Token

namespace Melt

/-- What stays of a statement does not depend on the values. -/
theorem melt_blanked (tokens : List Token) :
    melt (tokens.map Token.blanked) = (melt tokens).map (List.map Token.blanked) :=
  melt_map Token.mark_blanked tokens

end Melt

namespace Statement

theorem visible_blanked (tokens : List Token) :
    visible (tokens.map Token.blanked) = (visible tokens).map Token.blanked :=
  visible_map Token.blanked_eq_omitted_iff tokens

/-- Whether the placeholders can be paired depends on the number of bound values and the length of the
supply. -/
theorem collectFrom_blanked {supply other : List Parameter} (sameLength : supply.length = other.length)
    (position : Nat) (collected others : Parameters) (tokens : List Token) :
    (collectFrom position supply collected tokens).map (fun _ => ()) =
      (collectFrom position other others (tokens.map Token.blanked)).map fun _ => () := by
  induction tokens generalizing position supply other collected others with
  | nil =>
      have empty : supply.isEmpty = other.isEmpty := by
        rw [Bool.eq_iff_iff, List.isEmpty_iff_length_eq_zero, List.isEmpty_iff_length_eq_zero,
          sameLength]
      rw [List.map_nil, collectFrom, collectFrom, empty]
      split <;> rfl
  | cons token rest inductionHypothesis =>
      have unbound : token.blanked.boundValues.isEmpty = token.boundValues.isEmpty := by
        rw [Bool.eq_iff_iff, List.isEmpty_iff_length_eq_zero, List.isEmpty_iff_length_eq_zero,
          token.length_boundValues_blanked]
      rw [List.map_cons, collectFrom, collectFrom, token.isDead_blanked, unbound,
        token.placeholders_blanked, token.length_boundValues_blanked, sameLength]
      by_cases dead : token.isDead = true
      · rw [if_pos dead, if_pos dead]
      · rw [if_neg dead, if_neg dead]
        by_cases noValues : token.boundValues.isEmpty = true
        · rw [if_pos noValues, if_pos noValues]
          by_cases few : other.length < token.placeholders
          · rw [if_pos few, if_pos few]
          · have left : (supply.drop token.placeholders).length =
                (other.drop token.placeholders).length := by
              rw [List.length_drop, List.length_drop, sameLength]
            rw [if_neg few, if_neg few]
            exact inductionHypothesis left _ _ _
        · rw [if_neg noValues, if_neg noValues]
          by_cases exact : token.boundValues.length = token.placeholders
          · rw [if_pos exact, if_pos exact]
            exact inductionHypothesis sameLength _ _ _
          · rw [if_neg exact, if_neg exact]

theorem writeToken_blanked (context : Context) (parameters : Parameters) (numbering : Numbering)
    (token : Token) :
    writeToken context parameters numbering token.blanked =
      writeToken context parameters numbering token := by
  cases token <;> rfl

/-- What is written depends on the dialect, on the names of the tables that stand in the statement, and on nothing
else of the context. -/
theorem writeFrom_congr {first second : Context} {one other : Parameters} {tokens : List Token}
    (sameDialect : first.dialect = second.dialect)
    (same : ∀ reference, .table reference ∈ tokens →
      first.physicalName one reference = second.physicalName other reference)
    (numbering : Numbering) (front : String) :
    writeFrom first one numbering front tokens = writeFrom second other numbering front tokens := by
  induction tokens generalizing numbering front with
  | nil => rfl
  | cons token rest inductionHypothesis =>
      have own : writeToken first one numbering token = writeToken second other numbering token := by
        cases token with
        | table reference =>
            rw [writeToken, writeToken, same reference List.mem_cons_self, sameDialect]
        | _ => simp only [writeToken, sameDialect]
      have later := inductionHypothesis fun reference member =>
        same reference (List.mem_cons_of_mem _ member)
      rw [writeFrom, writeFrom, own]
      simp only [later]

end Statement

namespace Context

/-- Neither the hints nor the parameters decide where the table is found. -/
def FixesTable (context : Context) (reference : TableRef) : Prop :=
  reference.shard = .fromHints → ∀ locator name, context.topology = some locator →
    context.database = some name → locator.isSharded name reference.logicalName = false

/-- Where such a table is found depends on the locator and the database only. -/
theorem physicalName_congr {first second : Context} {reference : TableRef}
    (sameTopology : first.topology = second.topology)
    (sameDatabase : first.database = second.database) (fixed : first.FixesTable reference)
    (parameters others : Parameters) :
    first.physicalName parameters reference = second.physicalName others reference := by
  rw [physicalName, physicalName, ← sameTopology, ← sameDatabase]
  cases chosen : first.topology with
  | none => rfl
  | some locator =>
      cases within : first.database with
      | none => rfl
      | some name =>
          cases selected : reference.shard with
          | fromHints =>
              have unsharded := fixed selected locator name chosen within
              simp only [unsharded]
              rfl
          | _ => rfl

end Context

namespace Statement

/-- The text of a statement depends on its blanked tokens, the number of supplied parameters, and where the
locator puts its tables. -/
theorem map_sql_render {first second : Context} {tokens others : List Token}
    (sameTokens : tokens.map Token.blanked = others.map Token.blanked)
    (sameDialect : first.dialect = second.dialect) (sameTopology : first.topology = second.topology)
    (sameDatabase : first.database = second.database)
    (sameSupply : first.supply.length = second.supply.length)
    (fixed : ∀ reference, .table reference ∈ tokens → first.FixesTable reference) :
    (render first tokens).map Statement.sql = (render second others).map Statement.sql := by
  have shown : (visible tokens).map Token.blanked = (visible others).map Token.blanked := by
    rw [← visible_blanked, sameTokens, visible_blanked]
  have collected : (collect first.supply (visible tokens)).map (fun _ => ()) =
      (collect second.supply (visible others)).map fun _ => () := by
    rw [collect, collectFrom_blanked sameSupply 0 .empty .empty, shown,
      ← collectFrom_blanked rfl 0 .empty .empty, collect]
  have texts (one other : Parameters) (numbering : Numbering) :
      writeFrom first one numbering "" (visible tokens) =
        writeFrom second other numbering "" (visible others) := by
    have names : ∀ reference, .table reference ∈ visible tokens →
        first.physicalName one reference = second.physicalName other reference := by
      intro reference member
      exact Context.physicalName_congr sameTopology sameDatabase
        (fixed reference (List.mem_filter.mp member).1) one other
    have blanked (all : List Token) : writeFrom second other numbering "" (all.map Token.blanked) =
        writeFrom second other numbering "" all :=
      writeFrom_map (writeToken_blanked second other) Token.isBracket_blanked
        Token.isComma_blanked numbering "" all
    rw [writeFrom_congr sameDialect names, ← blanked, shown, blanked]
  rw [render, render]
  rcases (map_eq_map_iff _ _ _ _).mp collected with
    ⟨fault, failed, failedToo⟩ | ⟨one, other, first, second, -⟩
  · rw [failed, failedToo]
    rfl
  · rw [first, second, ok_mapError, ok_mapError, ok_bind, ok_bind, texts one other, sameDialect]
    cases writeFrom _ other (.start _) "" (visible others) <;> rfl

end Statement

namespace Composer

/-- The text of a built statement does not tell its values. Take two composers whose tokens differ in the
contents of bound values only, and whose contexts agree but for the hints and what the supplied parameters
are. When no table is found by hints or parameters, both builds give the same text or fail with the same
fault. When the calls of the locator return, so do both builds. -/
theorem sql_of_build_eq (first second : Composer) (sameMelting : first.melts = second.melts)
    (firstNotMisused : first.misuse = none) (secondNotMisused : second.misuse = none)
    (sameTokens : first.tokens.map Token.blanked = second.tokens.map Token.blanked)
    (sameDialect : first.context.dialect = second.context.dialect)
    (sameTopology : first.context.topology = second.context.topology)
    (sameDatabase : first.context.database = second.context.database)
    (sameSupply : first.context.supply.length = second.context.supply.length)
    (fixed : ∀ reference, .table reference ∈ first.tokens → first.context.FixesTable reference) :
    ((∃ fault, first.build = .error fault ∧ second.build = .error fault) ∨
      ∃ one other, first.build = .ok one ∧ second.build = .ok other ∧ one.sql = other.sql) ∧
    (first.context.Returns →
      first.build ≠ .error .zeroDivisor ∧ second.build ≠ .error .zeroDivisor) := by
  have kept : first.finalTokens.map (List.map Token.blanked) =
      second.finalTokens.map (List.map Token.blanked) := by
    rw [finalTokens, finalTokens, sameMelting]
    split
    · rw [← Melt.melt_blanked, sameTokens, Melt.melt_blanked]
    · exact congrArg Except.ok sameTokens
  constructor
  · rw [← map_eq_map_iff, build, build, firstNotMisused, secondNotMisused]
    dsimp only
    rcases (map_eq_map_iff _ _ _ _).mp kept with
      ⟨fault, failed, failedToo⟩ | ⟨tokens, others, melted, meltedToo, same⟩
    · rw [failed, failedToo]
      rfl
    · rw [melted, meltedToo]
      refine Statement.map_sql_render same sameDialect sameTopology sameDatabase sameSupply ?_
      intro reference member
      exact fixed reference ((table_mem_iff_of_finalTokens melted reference).mp member)
  · intro returns
    have alsoReturns : second.context.Returns := by
      rw [Context.Returns, ← sameTopology]
      exact returns
    exact ⟨build_ne_zeroDivisor returns, build_ne_zeroDivisor alsoReturns⟩

/-- The orders of one shard above a total, in a state that the context supplies. -/
def pinnedOrders (total state : Value) : Composer where
  tokens :=
    [.keyword .source, .table { logicalName := "orders", shard := .shardId "1" },
      .keyword .condition,
      .columnExpression "total" { template := "\x7b\x7d > ?", values := [total] },
      .operator .conjunction, .expression { template := "state = ?" }]
  context :=
    { chosenDialect := some .postgreSql, database := some "shop", topology := some Topology.shop,
      parameters := some (.ofList [⟨none, state⟩]) }

theorem sql_of_pinnedOrders :
    ∃ one other, (pinnedOrders (.integer 5) (.text "paid")).build = .ok one ∧
      (pinnedOrders .null (.boolean true)).build = .ok other ∧
      one.sql = "FROM \"orders_1\" WHERE \"total\" > $1 AND state = $2" ∧ other.sql = one.sql := by
  have built : (pinnedOrders (.integer 5) (.text "paid")).build =
      .ok ⟨"FROM \"orders_1\" WHERE \"total\" > $1 AND state = $2",
        ⟨[⟨⟨some "total", .integer 5⟩, 1⟩, ⟨⟨none, .text "paid"⟩, 2⟩]⟩⟩ := by
    decide
  have fixed : ∀ reference,
      .table reference ∈ (pinnedOrders (.integer 5) (.text "paid")).tokens →
        (pinnedOrders (.integer 5) (.text "paid")).context.FixesTable reference := by
    intro reference member selected
    have pinned : reference.shard = .shardId "1" := by
      simp only [pinnedOrders, List.mem_cons, Token.table.injEq, reduceCtorEq, false_or, or_false,
        List.not_mem_nil] at member
      rw [member]
    rw [pinned] at selected
    cases selected
  obtain ⟨⟨fault, failed, -⟩ | ⟨one, other, first, second, same⟩, -⟩ :=
    sql_of_build_eq (pinnedOrders (.integer 5) (.text "paid")) (pinnedOrders .null (.boolean true))
      rfl rfl rfl rfl rfl rfl rfl rfl fixed
  · rw [built] at failed
    cases failed
  · refine ⟨one, other, first, second, ?_, same.symm⟩
    rw [built] at first
    cases first
    rfl

end Composer

end SqlTemplate
