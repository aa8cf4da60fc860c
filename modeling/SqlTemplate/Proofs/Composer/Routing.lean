import SqlTemplate.Proofs.Composer.Parameters
import SqlTemplate.Proofs.Context.PhysicalName
import SqlTemplate.Proofs.Melt.WellFormed
import SqlTemplate.Proofs.Statement.Outline
import SqlTemplate.Proofs.Statement.Pairing

/-!
This file follows the values of a composed statement to the shards of its tables. A table can stand before
the predicate whose value routes it, and the value of a predicate that melts away routes nothing.
-/

namespace SqlTemplate

namespace Token

/-- The table to which the token refers. -/
def table? : Token → Option TableRef
  | .table reference => some reference
  | _ => none

/-- The template of a column expression has exactly one slot. No other token needs one. -/
def hasOneSlot : Token → Bool
  | .columnExpression _ body => Template.slots body.template.toList == 1
  | _ => true

end Token

namespace Statement

/-- The tables of the tokens, in their order. -/
def tables (tokens : List Token) : List TableRef :=
  tokens.filterMap Token.table?

/-- A table is an operand, so the operands have all tables. -/
theorem tables_filter_isOperand (tokens : List Token) :
    tables (tokens.filter Token.isOperand) = tables tokens := by
  rw [tables, tables, List.filterMap_filter]
  congr 1
  funext token
  cases token with
  | expression body => exact ite_self none
  | columnExpression columnName body => exact ite_self none
  | _ => rfl

/-- The fault is that of the first table without a physical name. -/
def FailsFirst (named : TableRef → Except Fault String) (references : List TableRef)
    (fault : Fault) : Prop :=
  ∃ before reference after, references = before ++ reference :: after ∧
    (∀ earlier ∈ before, ∃ physicalName, named earlier = .ok physicalName) ∧
    named reference = .error fault

variable {named : TableRef → Except Fault String} {fault : Fault}

theorem not_failsFirst_nil : ¬ FailsFirst named [] fault := by
  rintro ⟨before, reference, after, split, -⟩
  cases before <;> cases split

theorem failsFirst_cons_of_error {reference : TableRef} {cause : Fault} {rest : List TableRef}
    (failed : named reference = .error cause) :
    FailsFirst named (reference :: rest) fault ↔ cause = fault := by
  constructor
  · rintro ⟨before, last, after, split, resolved, lastFailed⟩
    cases before with
    | nil =>
        obtain ⟨rfl, -⟩ := List.cons.inj split
        exact Except.error.inj (failed.symm.trans lastFailed)
    | cons first others =>
        obtain ⟨rfl, -⟩ := List.cons.inj split
        obtain ⟨physicalName, found⟩ := resolved reference List.mem_cons_self
        rw [failed] at found
        cases found
  · rintro rfl
    exact ⟨[], reference, rest, rfl, fun _ => nofun, failed⟩

theorem failsFirst_cons_of_ok {reference : TableRef} {physicalName : String}
    {rest : List TableRef} (found : named reference = .ok physicalName) :
    FailsFirst named (reference :: rest) fault ↔ FailsFirst named rest fault := by
  constructor
  · rintro ⟨before, last, after, split, resolved, lastFailed⟩
    cases before with
    | nil =>
        obtain ⟨rfl, -⟩ := List.cons.inj split
        rw [found] at lastFailed
        cases lastFailed
    | cons first others =>
        obtain ⟨rfl, later⟩ := List.cons.inj split
        rw [List.forall_mem_cons] at resolved
        exact ⟨others, last, after, later, resolved.2, lastFailed⟩
  · rintro ⟨before, last, after, rfl, resolved, lastFailed⟩
    refine ⟨reference :: before, last, after, rfl, ?_, lastFailed⟩
    rw [List.forall_mem_cons]
    exact ⟨⟨physicalName, found⟩, resolved⟩

/-- Only a table or a template without its one slot stands in the way of an outline. -/
theorem exists_stretches (dialect : Dialect) (named : TableRef → Except Fault String)
    {token : Token} (noTable : token.table? = none) (slot : token.hasOneSlot = true) :
    ∃ own, stretches dialect named token = .ok own := by
  cases token with
  | table reference => cases noTable
  | columnExpression columnName body =>
      have one : Template.slots body.template.toList = 1 := beq_iff_eq.mp slot
      rw [stretches, if_neg (not_not.mpr one)]
      exact ⟨_, rfl⟩
  | _ => exact ⟨_, rfl⟩

/-- When every template has its slot, an outline fails as the first of its tables does. -/
theorem outline_eq_error_iff (dialect : Dialect) {tokens : List Token}
    (slots : ∀ token ∈ tokens, token.hasOneSlot = true) :
    outline dialect named tokens = .error fault ↔ FailsFirst named (tables tokens) fault := by
  induction tokens with
  | nil => exact iff_of_false nofun not_failsFirst_nil
  | cons token rest inductionHypothesis =>
      rw [List.forall_mem_cons] at slots
      have later := inductionHypothesis slots.2
      have passed {own : List Stretch} (outlined : stretches dialect named token = .ok own) :
          outline dialect named (token :: rest) = .error fault ↔
            FailsFirst named (tables rest) fault := by
        rw [outline, outlined, ok_bind, bind_ok_eq_error_iff, later]
      cases table : token.table? with
      | none =>
          obtain ⟨own, outlined⟩ := exists_stretches dialect named table slots.1
          rw [passed outlined, tables, tables, List.filterMap_cons_none table]
      | some reference =>
          obtain rfl : token = .table reference := by
            cases token <;> cases table
            rfl
          rw [tables, List.filterMap_cons_some table]
          cases found : named reference with
          | error cause =>
              rw [failsFirst_cons_of_error found, outline, stretches, found, error_bind, error_bind,
                Except.error.injEq]
          | ok physicalName =>
              have outlined : stretches dialect named (.table reference) =
                  .ok [.fixed (writeTable dialect reference physicalName)] := by
                rw [stretches, found, ok_bind]
              rw [failsFirst_cons_of_ok found, passed outlined, tables]

/-- What is dead is no operand. -/
theorem filter_isOperand_alive (tokens : List Token) :
    (tokens.filter fun token => !token.isDead).filter Token.isOperand =
      tokens.filter Token.isOperand := by
  rw [List.filter_filter]
  congr 1
  funext token
  cases operand : token.isOperand with
  | true => rw [isDead_of_isOperand operand]; rfl
  | false => rfl

/-- The placeholders of the tokens that are not dead are what all tokens bring. -/
theorem contents_of_collect_alive {tokens : List Token} {supply : List Parameter}
    {parameters : Parameters}
    (collected : collect supply (tokens.filter fun token => !token.isDead) = .ok parameters) :
    parameters.contents = (shares supply tokens).flatMap brought := by
  obtain ⟨entries, paired, rfl⟩ := (collect_eq_ok_iff _ _ _).mp collected
  rw [Parameters.contents_ofList, (shares_of_pairFrom paired).1]
  exact (shares_eq_of_operands supply (filter_isOperand_alive tokens)).1

end Statement

namespace Composer

open Statement

variable {composer : Composer}

/-- When nothing was misused, what melting leaves is rendered. -/
theorem build_of_melt {kept : List Token} (melts : composer.melts = true)
    (notMisused : composer.misuse = none) (melted : Melt.melt composer.tokens = .ok kept) :
    composer.build = render composer.context kept := by
  rw [build, notMisused, finalTokens, if_pos melts, melted]
  rfl

/-- The templates that melting leaves were composed with their slots. -/
theorem hasOneSlot_of_melt {tokens kept : List Token} (melted : Melt.melt tokens = .ok kept)
    (slots : ∀ token ∈ tokens, token.isDead = false → token.hasOneSlot = true) :
    ∀ token ∈ kept, token.hasOneSlot = true := by
  intro token member
  have alive := Melt.alive_of_melt melted token member
  cases operand : token.isOperand with
  | true =>
      have composed : token ∈ tokens.filter Token.isOperand := by
        rw [← Melt.filter_isOperand_melt melted]
        exact List.mem_filter.mpr ⟨member, operand⟩
      exact slots token (List.mem_filter.mp composed).1 alive
  | false =>
      cases token with
      | columnExpression columnName body =>
          rw [Token.isDead] at alive
          rw [Token.isOperand, alive] at operand
          cases operand
      | _ => rfl

/-- A statement names the tables of its composer. It is the outline of its tokens, written, and where a
table stands its physical name is written. -/
structure NamesTables (composer : Composer) (named : TableRef → Except Fault String)
    (statement : Statement) (parts : List (Token × List Stretch)) : Prop where
  sameTables : tables (parts.map Prod.fst) = tables composer.tokens
  outlined : outline composer.context.dialect named (parts.map Prod.fst) = .ok parts
  written : statement.sql.toList =
    Text.trimLetters (Stretch.written (.start composer.context.dialect) (layOut parts))
  physicalNames : ∀ reference own, (.table reference, own) ∈ parts →
    ∃ physicalName, named reference = .ok physicalName ∧
      own = [.fixed (writeTable composer.context.dialect reference physicalName)]

/-- A written outline names the tables of its tokens. -/
theorem namesTables_of_outline {named : TableRef → Except Fault String} {shown : List Token}
    {parts : List (Token × List Stretch)} {statement : Statement}
    (sameTables : tables shown = tables composer.tokens)
    (outlined : outline composer.context.dialect named shown = .ok parts)
    (written : statement.sql.toList =
      Text.trimLetters (Stretch.written (.start composer.context.dialect) (layOut parts))) :
    composer.NamesTables named statement parts := by
  obtain ⟨rfl, each⟩ := mem_outline outlined
  refine ⟨sameTables, outlined, written, ?_⟩
  intro reference own member
  obtain ⟨physicalName, found, same⟩ := (bind_eq_ok_iff _ _ _).mp (each _ member)
  cases same
  exact ⟨physicalName, found, rfl⟩

/-- When the placeholders of the composed tokens are paired, the statement is an outline, written. The
outlined tokens have the composed tables, and their templates have their slots. -/
theorem exists_build_eq {placeholders : Parameters} (melts : composer.melts = true)
    (notMisused : composer.misuse = none) (balanced : Balanced composer.tokens)
    (collected : collect composer.context.supply
      (composer.tokens.filter fun token => !token.isDead) = .ok placeholders)
    (slots : ∀ token ∈ composer.tokens, token.isDead = false → token.hasOneSlot = true) :
    ∃ shown, tables shown = tables composer.tokens ∧
      (∀ token ∈ shown, token.hasOneSlot = true) ∧
      composer.build =
        (outline composer.context.dialect (composer.context.physicalName placeholders) shown >>=
          fun parts => .ok ⟨String.ofList
            (Text.trimLetters (Stretch.written (.start composer.context.dialect) (layOut parts))),
            placeholders⟩) := by
  obtain ⟨kept, melted⟩ := Melt.exists_melt balanced
  have operands : (visible kept).filter Token.isOperand =
      composer.tokens.filter Token.isOperand := by
    rw [filter_isOperand_visible, Melt.filter_isOperand_melt melted]
  have shown : ∀ token ∈ visible kept, token ∈ kept := fun token member =>
    (List.mem_filter.mp member).1
  have keptCollected : collect composer.context.supply (visible kept) = .ok placeholders := by
    refine collect_of_operands ((filter_isOperand_alive _).trans operands.symm) ?_ collected
    exact fun token member => Melt.alive_of_melt melted token (shown token member)
  obtain ⟨entries, keptPaired, rfl⟩ := (collect_eq_ok_iff _ _ _).mp keptCollected
  refine ⟨visible kept, ?_, ?_, ?_⟩
  · rw [← tables_filter_isOperand, operands, tables_filter_isOperand]
  · exact fun token member => hasOneSlot_of_melt melted slots token (shown token member)
  · rw [build_of_melt melts notMisused melted, render_of_paired keptPaired]

/-- The tables of a statement without hints are routed by its placeholders. These belong to the composed
tokens that are not dead, in their order, wherever the tables stand between them. The build fails exactly as
the first table without a physical name does, and otherwise every table is written with its own. -/
theorem tables_of_build (composer : Composer) (topology : Topology) (name : String)
    (placeholders : Parameters) (melts : composer.melts = true) (notMisused : composer.misuse = none)
    (chosen : composer.context.topology = some topology.locator) (valid : topology.validate = .ok ())
    (within : composer.context.database = some name)
    (unhinted : composer.context.hints = Hints.empty) (balanced : Balanced composer.tokens)
    (collected : collect composer.context.supply
      (composer.tokens.filter fun token => !token.isDead) = .ok placeholders)
    (slots : ∀ token ∈ composer.tokens, token.isDead = false → token.hasOneSlot = true) :
    let named := composer.context.physicalName placeholders
    let given := shares composer.context.supply composer.tokens
    placeholders.contents = given.flatMap brought ∧
      given.map Prod.fst = (composer.tokens.filter fun token => !token.isDead) ∧
      (∀ database rule reference, topology.database? name = some database →
        database.rule? reference.logicalName = some rule → reference.shard = .fromHints →
          RoutedBy rule database.separator reference.logicalName placeholders.entries
            (named reference)) ∧
      (∀ fault, composer.build = .error fault ↔
        FailsFirst named (tables composer.tokens) fault) ∧
      ∀ statement, composer.build = .ok statement →
        statement.parameters = placeholders ∧ ∃ parts, composer.NamesTables named statement parts := by
  intro named given
  obtain ⟨shown, sameTables, shownSlots, built⟩ :=
    exists_build_eq melts notMisused balanced collected slots
  refine ⟨contents_of_collect_alive collected, map_fst_shares _ _, ?_, ?_, ?_⟩
  · intro database rule reference found ruled selected
    have positive := Topology.modulus_pos_of_validate valid found ruled
    exact Context.routedBy_physicalName chosen within unhinted found ruled positive selected
      placeholders
  · intro fault
    rw [built, bind_ok_eq_error_iff, outline_eq_error_iff _ shownSlots, sameTables]
  · intro statement success
    rw [built] at success
    obtain ⟨parts, outlined, whole⟩ := (bind_eq_ok_iff _ _ _).mp success
    cases whole
    exact ⟨rfl, parts, namesTables_of_outline sameTables outlined String.toList_ofList⟩

/-- The orders of a customer whose number comes as a text. The condition before it is absent. -/
def customerOrders : Composer where
  tokens :=
    [.keyword .source, .table { logicalName := "orders" }, .keyword .condition,
      .columnExpression "customer_id"
        { template := "\x7b\x7d <> ?", values := [.integer 5], isAbsent := true },
      .operator .conjunction, .columnExpression "CUSTOMER_ID" { template := "\x7b\x7d = ?" }]
  context :=
    { chosenDialect := some .postgreSql, database := some "shop", topology := some Topology.shop,
      parameters := some (.ofList [⟨none, .text "7"⟩]) }

theorem tables_of_customerOrders :
    customerOrders.build = .ok ⟨"FROM \"orders_1\" WHERE \"CUSTOMER_ID\" = $1",
        ⟨[⟨⟨some "CUSTOMER_ID", .text "7"⟩, 1⟩]⟩⟩ ∧
      customerOrders.context.physicalName ⟨[⟨⟨some "CUSTOMER_ID", .text "7"⟩, 1⟩]⟩
        { logicalName := "orders" } = .ok "orders_1" := by
  have balanced : Balanced customerOrders.tokens :=
    (Melt.balanced_iff_imbalance?_eq_none _).mpr (by decide)
  obtain ⟨-, -, routed, -, -⟩ := tables_of_build customerOrders Topology.shop "shop"
    ⟨[⟨⟨some "CUSTOMER_ID", .text "7"⟩, 1⟩]⟩ rfl rfl rfl rfl rfl rfl balanced rfl (by decide)
  have route := routed Topology.shopDatabase ⟨"customer_id", 3⟩ { logicalName := "orders" }
    rfl rfl rfl
  refine ⟨by decide, ?_⟩
  exact route.shard [] _ [] 7 rfl nofun (by decide) (by decide)

end Composer

end SqlTemplate
