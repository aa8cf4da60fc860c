import Mathlib.Algebra.GroupWithZero.Nat
import Mathlib.Data.List.Basic
import SqlTemplate.Composer.Basic
import SqlTemplate.Proofs.Statement.Shares

/-!
This file proves that the values of a built statement stay in line with its placeholders. What melts
away takes no value with it but its own, so the parameters can be read off the tokens as they were
composed.
-/

namespace SqlTemplate.Composer

open Statement

/-- Whether the composer melts or not, all its operands are rendered. -/
theorem operands_of_finalTokens {composer : Composer} {tokens : List Token}
    (final : composer.finalTokens = .ok tokens) :
    tokens.filter Token.isOperand = composer.tokens.filter Token.isOperand := by
  rw [finalTokens] at final
  split at final
  · exact Melt.filter_isOperand_melt final
  · cases final
    rfl

/-- The tables of the composed tokens are rendered, and no others. -/
theorem table_mem_iff_of_finalTokens {composer : Composer} {tokens : List Token}
    (final : composer.finalTokens = .ok tokens) (reference : TableRef) :
    .table reference ∈ tokens ↔ .table reference ∈ composer.tokens := by
  have operand (all : List Token) :
      .table reference ∈ all ↔ .table reference ∈ all.filter Token.isOperand := by
    rw [List.mem_filter]
    exact (and_iff_left rfl).symm
  rw [operand, operands_of_finalTokens final, ← operand]

/-- A statement is built from what melting leaves, when nothing was misused. -/
theorem render_of_build {composer : Composer} {statement : Statement}
    (melts : composer.melts = true) (built : composer.build = .ok statement) :
    ∃ kept, Melt.melt composer.tokens = .ok kept ∧
      render composer.context kept = .ok statement := by
  rw [build] at built
  split at built
  · cases built
  · obtain ⟨kept, melted, rendered⟩ := (bind_eq_ok_iff _ _ _).mp built
    rw [mapError_eq_ok_iff, finalTokens, if_pos melts] at melted
    exact ⟨kept, melted, rendered⟩

/-- The parameters of a built statement are what the composed tokens that are not dead bring, in their
order. Each token brings one parameter for each of its placeholders, the parameters of the context are
taken one after the other until none is left, and the indices count from one to the number of the
placeholders. -/
theorem parameters_of_build (composer : Composer) (statement : Statement)
    (melts : composer.melts = true) (built : composer.build = .ok statement) :
    let given := shares composer.context.supply composer.tokens
    statement.parameters.contents = given.flatMap brought ∧
      given.map Prod.fst = (composer.tokens.filter fun token => !token.isDead) ∧
      given.flatMap Prod.snd = composer.context.supply ∧
      (∀ share ∈ given, (brought share).length = share.1.placeholders) ∧
      statement.parameters.entries.map Parameter.index =
        List.range' 1 statement.parameters.size ∧
      statement.parameters.size =
        ((composer.tokens.filter fun token => !token.isDead).map Token.placeholders).sum := by
  intro given
  obtain ⟨kept, melted, rendered⟩ := render_of_build melts built
  obtain ⟨entries, paired, held⟩ := pairFrom_of_render rendered
  obtain ⟨brings, used, exact⟩ := shares_of_pairFrom paired
  have operands : (visible kept).filter Token.isOperand =
      composer.tokens.filter Token.isOperand := by
    rw [filter_isOperand_visible, Melt.filter_isOperand_melt melted]
  obtain ⟨sameBrought, sameUsed, sameExact⟩ :=
    shares_eq_of_operands composer.context.supply operands
  have contents : statement.parameters.contents = given.flatMap brought := by
    rw [held, Parameters.contents_ofList, brings, sameBrought]
  have allExact := sameExact exact
  have tokens := map_fst_shares composer.context.supply composer.tokens
  refine ⟨contents, tokens, sameUsed.symm.trans used, allExact, indexed_of_render rendered, ?_⟩
  rw [← Parameters.length_contents, contents, List.length_flatMap, ← tokens, List.map_map]
  congr 1
  exact List.map_congr_left fun share member => allExact share member

/-- A condition with its own value, one that is absent, and one that takes its value from the
context. -/
def threeConditions : Composer where
  tokens :=
    [.columnExpression "a" { template := "\x7b\x7d = ?", values := [.integer 1] },
      .operator .conjunction,
      .columnExpression "b" { template := "\x7b\x7d = ?", isAbsent := true },
      .operator .conjunction,
      .expression { template := "c = ?" }]
  context := { parameters := some (.ofList [⟨none, .integer 3⟩]) }

theorem parameters_of_threeConditions :
    ∃ statement, threeConditions.melts = true ∧ threeConditions.build = .ok statement ∧
      statement.parameters.contents =
        (shares threeConditions.context.supply threeConditions.tokens).flatMap brought ∧
      statement.parameters.entries =
        [⟨⟨some "a", .integer 1⟩, 1⟩, ⟨⟨none, .integer 3⟩, 2⟩] ∧
      statement.parameters.entries.map Parameter.index = List.range' 1 2 := by
  have melts : threeConditions.melts = true := rfl
  have built : threeConditions.build =
      .ok ⟨"`a` = ? AND c = ?", ⟨[⟨⟨some "a", .integer 1⟩, 1⟩, ⟨⟨none, .integer 3⟩, 2⟩]⟩⟩ := by
    decide
  obtain ⟨contents, -, -, -, indices, -⟩ := parameters_of_build threeConditions _ melts built
  exact ⟨_, melts, built, contents, rfl, indices⟩

end SqlTemplate.Composer
