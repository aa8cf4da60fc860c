import Mathlib.Data.List.ReduceOption
import SqlTemplate.Proofs.Composer.Frame
import SqlTemplate.Proofs.Composer.Verdict
import SqlTemplate.Proofs.Melt.Living

/-!
This file follows a predicate whose values are optional and given one after the other. The last one decides:
when it is absent, the predicate melts away with the values that it got before. When it is present and an
earlier one is absent, the predicate stays with too few values and the statement is refused.
-/

namespace SqlTemplate

namespace Token

variable {token predicate : Token} {body : Expression} {template : String}

theorem isDead_of_expression? (found : token.expression? = some body) :
    token.isDead = body.isAbsent := by
  cases token <;> cases found <;> rfl

theorem isOperand_of_expression? (found : token.expression? = some body)
    (present : body.isAbsent = false) : token.isOperand = true := by
  cases token <;> cases found <;> simp [isOperand, present]

theorem boundValues_of_expression? (found : token.expression? = some body) :
    token.boundValues = body.values := by
  rw [boundValues, found]

theorem placeholders_of_expression? (found : token.expression? = some body) :
    token.placeholders = Template.placeholders body.template := by
  cases token <;> cases found <;> rfl

/-- The predicate after optional values are given to it, one after the other. -/
def offered (predicate : Token) (values : List (Option Value)) : Token :=
  predicate.mutated (values.map .nullable)

theorem offered_append (predicate : Token) (early late : List (Option Value)) :
    predicate.offered (early ++ late) = (predicate.offered early).mutated (late.map .nullable) := by
  rw [offered, List.map_append, mutated_append, offered]

/-- The values that are present are bound in their order, and the last one given decides whether the predicate
is absent. -/
theorem expression?_offered (unset : predicate.expression? = some { template := template })
    (values : List (Option Value)) :
    (predicate.offered values).expression? =
      some { template := template
             isAbsent := (values.getLast?.map Option.isNone).getD false
             values := values.reduceOption } := by
  have marks : (values.map Mutation.nullable).filterMap Mutation.mark? = values.map Option.isNone := by
    rw [List.filterMap_map]
    exact congrFun List.filterMap_eq_map values
  have bound : (values.map Mutation.nullable).flatMap Mutation.values = values.reduceOption := by
    rw [List.flatMap_map]
    exact (List.filterMap_eq_flatMap_toList id values).symm
  rw [offered, mutated_eq, expression?_mapExpression, unset, Option.map_some, marks, bound,
    List.getLast?_map, List.nil_append]

theorem placeholders_offered (unset : predicate.expression? = some { template := template })
    (values : List (Option Value)) :
    (predicate.offered values).placeholders = predicate.placeholders := by
  rw [placeholders_of_expression? (expression?_offered unset values),
    placeholders_of_expression? unset]

theorem column?_offered (predicate : Token) (values : List (Option Value)) :
    (predicate.offered values).column? = predicate.column? := by
  rw [offered, mutated_eq]
  cases predicate <;> rfl

/-- With all values present, they are bound. -/
theorem offered_present (unset : predicate.expression? = some { template := template })
    (present : List Value) :
    (predicate.offered (present.map some)).expression? =
      some { template := template, values := present } := by
  have notAbsent : (((present.map some).getLast?.map Option.isNone).getD false) = false := by
    rw [List.getLast?_map]
    cases present.getLast? <;> rfl
  have bound : (present.map some).reduceOption = present := by
    rw [List.reduceOption, List.filterMap_map]
    exact List.filterMap_some
  rw [expression?_offered unset, notAbsent, bound]

/-- With the last value present and an earlier one absent, too few values are bound. -/
theorem not_valuesFit_offered (unset : predicate.expression? = some { template := template })
    {values : List (Option Value)} (complete : values.length = predicate.placeholders) {last : Value}
    (lastPresent : values.getLast? = some (some last)) (someAbsent : none ∈ values) :
    values.reduceOption.length < predicate.placeholders ∧ ¬ (predicate.offered values).ValuesFit := by
  have present : last ∈ values.reduceOption :=
    List.reduceOption_mem_iff.mpr (List.mem_of_getLast? lastPresent)
  have fewer : values.reduceOption.length < predicate.placeholders := by
    rw [← complete]
    exact List.reduceOption_length_lt_iff.mpr someAbsent
  refine ⟨fewer, ?_⟩
  rw [ValuesFit, boundValues_of_expression? (expression?_offered unset values),
    placeholders_offered unset]
  rintro (none | enough)
  · exact List.ne_nil_of_mem present none
  · exact Nat.ne_of_lt fewer enough

end Token

namespace Statement

/-- What stands behind takes its parameters from what is left of the supply. -/
theorem shares_append (supply : List Parameter) (first second : List Token) :
    shares supply (first ++ second) =
      shares supply first ++ shares (supply.drop (demand first)) second := by
  induction first generalizing supply with
  | nil => rfl
  | cons token rest inductionHypothesis =>
      rw [List.cons_append, shares, shares, demand_cons, ← List.drop_drop]
      cases dead : token.isDead with
      | true => simp [Token.waiting, dead, inductionHypothesis]
      | false =>
          cases bound : token.boundValues.isEmpty with
          | true => simp [Token.waiting_of_unbound dead bound, inductionHypothesis]
          | false => simp [Token.waiting_of_bound bound, inductionHypothesis]

/-- Paired tokens have values that fit. -/
theorem valuesFit_of_pairFrom {tokens : List Token} {position : Nat} {supply : List Parameter}
    {entries : List NamedValue} (paired : pairFrom position supply tokens = .ok entries) :
    ∀ token ∈ tokens, token.ValuesFit := by
  intro token member
  have alive : (!token.isDead) = true := by
    rw [alive_of_pairFrom paired token member]
    rfl
  have shown : token ∈ (shares supply tokens).map Prod.fst := by
    rw [map_fst_shares]
    exact List.mem_filter.mpr ⟨member, alive⟩
  obtain ⟨share, inShares, rfl⟩ := List.mem_map.mp shown
  have exact := (shares_of_pairFrom paired).2.2 share inShares
  rw [brought] at exact
  split at exact
  · rename_i unbound
    exact .inl (List.isEmpty_iff.mp unbound)
  · rw [List.length_map] at exact
    exact .inr exact

end Statement

namespace Composer

open Statement

variable {composer : Composer}

/-- A statement is built from what is rendered, when nothing was misused. -/
theorem build_eq_ok_iff (composer : Composer) (statement : Statement) :
    composer.build = .ok statement ↔
      composer.misuse = none ∧ ∃ final, composer.finalTokens = .ok final ∧
        render composer.context final = .ok statement := by
  rw [build]
  cases misused : composer.misuse with
  | some cause => simp
  | none => simp only [bind_eq_ok_iff, mapError_eq_ok_iff, true_and]

/-- A built statement has the parameters that the composed tokens bring. -/
theorem parameters_eq_given {statement : Statement} (built : composer.build = .ok statement) :
    statement.parameters = composer.given := by
  obtain ⟨-, final, finalTokens, rendered⟩ := (composer.build_eq_ok_iff statement).mp built
  have operands := (filter_isOperand_visible final).trans (operands_of_finalTokens finalTokens)
  obtain ⟨entries, paired, held⟩ := pairFrom_of_render rendered
  rw [held, given, (shares_of_pairFrom paired).1,
    (shares_eq_of_operands composer.context.supply operands).1]

/-- What is rendered without its values is a fault of the composed tokens. -/
theorem build_of_unpaired
    (unpaired : ∀ final entries, composer.finalTokens = .ok final →
      pairFrom 0 composer.context.supply (visible final) ≠ .ok entries) :
    ∃ cause, composer.build = .error (.state cause) := by
  rw [build]
  cases misused : composer.misuse with
  | some cause => exact ⟨cause, rfl⟩
  | none =>
      cases finalTokens : composer.finalTokens with
      | error cause => exact ⟨cause, rfl⟩
      | ok final =>
          cases paired : pairFrom 0 composer.context.supply (visible final) with
          | error cause =>
              refine ⟨cause, ?_⟩
              exact render_of_unpaired paired
          | ok entries => exact absurd paired (unpaired final entries finalTokens)

/-- The composer without the token at a place. -/
def without (composer : Composer) (place : Nat) : Composer :=
  { composer with tokens := composer.tokens.take place ++ composer.tokens.drop (place + 1) }

/-- The composed tokens fall apart at a place. -/
theorem tokens_split {place : Nat} {token : Token} (found : composer.tokens[place]? = some token) :
    composer.tokens = composer.tokens.take place ++ token :: composer.tokens.drop (place + 1) := by
  obtain ⟨within, rfl⟩ := List.getElem?_eq_some_iff.mp found
  rw [← List.drop_eq_getElem_cons within, List.take_append_drop]

/-- A dead token of a composer that melts makes no difference to what is rendered. -/
theorem finalTokens_without {place : Nat} {token : Token} (melts : composer.melts = true)
    (found : composer.tokens[place]? = some token) (dead : token.isDead = true) (final : List Token) :
    (composer.without place).finalTokens = .ok final ↔ composer.finalTokens = .ok final := by
  have same : Melt.living (composer.without place).tokens = Melt.living composer.tokens := by
    have split := tokens_split found
    conv_rhs => rw [split, Melt.living_append, Melt.living_cons_of_dead dead]
    rw [without, Melt.living_append]
  have alsoMelts : (composer.without place).melts = true := melts
  rw [finalTokens, finalTokens, if_pos melts, if_pos alsoMelts]
  exact ⟨Melt.melt_of_living same, Melt.melt_of_living same.symm⟩

theorem build_without {place : Nat} {token : Token} (melts : composer.melts = true)
    (found : composer.tokens[place]? = some token) (dead : token.isDead = true)
    (statement : Statement) :
    (composer.without place).build = .ok statement ↔ composer.build = .ok statement := by
  simp only [build_eq_ok_iff, finalTokens_without melts found dead]
  rfl

/-- A composer that does not melt refuses a dead token that would be seen. -/
theorem build_of_dead {place : Nat} {token : Token} (stays : composer.melts = false)
    (found : composer.tokens[place]? = some token) (dead : token.isDead = true)
    (seen : token ≠ .omitted) : ∃ cause, composer.build = .error (.state cause) := by
  apply build_of_unpaired
  intro final entries finalTokens paired
  obtain rfl : composer.tokens = final := by
    rw [Composer.finalTokens, if_neg (by rw [stays]; exact Bool.false_ne_true)] at finalTokens
    exact Except.ok.inj finalTokens
  have shown : token ∈ visible composer.tokens :=
    List.mem_filter.mpr ⟨List.mem_of_getElem? found, decide_eq_true seen⟩
  rw [alive_of_pairFrom paired token shown] at dead
  cases dead

/-- What is rendered falls apart at an operand as the composed tokens do. -/
theorem finalTokens_split {place : Nat} {token : Token} {final : List Token}
    (found : composer.tokens[place]? = some token) (operand : token.isOperand = true)
    (finalTokens : composer.finalTokens = .ok final) :
    ∃ front back, final = front ++ token :: back ∧
      front.filter Token.isOperand = (composer.tokens.take place).filter Token.isOperand ∧
      back.filter Token.isOperand = (composer.tokens.drop (place + 1)).filter Token.isOperand := by
  have operands := operands_of_finalTokens finalTokens
  rw [tokens_split found, List.filter_append, List.filter_cons_of_pos operand,
    List.filter_eq_append_iff] at operands
  obtain ⟨front, rest, rfl, sameFront, sameRest⟩ := operands
  obtain ⟨skipped, back, rfl, noOperand, -, sameBack⟩ := List.filter_eq_cons_iff.mp sameRest
  refine ⟨front ++ skipped, back, List.append_assoc _ _ _ |>.symm, ?_, sameBack⟩
  rw [List.filter_append, sameFront, List.filter_eq_nil_iff.mpr noOperand, List.append_nil]

/-- An operand with values that do not fit its placeholders is refused, whether the composer melts or not. -/
theorem build_of_misfit {place : Nat} {token : Token} (found : composer.tokens[place]? = some token)
    (operand : token.isOperand = true) (misfit : ¬ token.ValuesFit) :
    ∃ cause, composer.build = .error (.state cause) := by
  apply build_of_unpaired
  intro final entries finalTokens paired
  obtain ⟨front, back, rfl, -, -⟩ := finalTokens_split found operand finalTokens
  have shown : token ∈ (visible (front ++ token :: back)).filter Token.isOperand := by
    rw [filter_isOperand_visible]
    simp [operand]
  exact misfit (valuesFit_of_pairFrom paired token (List.mem_filter.mp shown).1)

/-- The values bound to an operand stand between the parameters of the tokens before it and behind it. -/
theorem contents_of_bound {place : Nat} {token : Token} {statement : Statement}
    (found : composer.tokens[place]? = some token) (alive : token.isDead = false)
    (bound : token.boundValues.isEmpty = false) (built : composer.build = .ok statement) :
    statement.parameters.contents =
      (shares composer.context.supply (composer.tokens.take place)).flatMap brought ++
        boundParameters token ++
          (shares (composer.context.supply.drop (demand (composer.tokens.take place)))
            (composer.tokens.drop (place + 1))).flatMap brought := by
  rw [parameters_eq_given built, given, Parameters.contents_ofList]
  conv_lhs => rw [tokens_split found]
  rw [shares_append, shares, alive, bound]
  simp [brought, bound, boundParameters]

end Composer

namespace Session

open SqlTemplate.Action Statement

variable {actions : List Action} {place : Nat} {predicate : Token} {values : List (Option Value)}

/-- A predicate gets an optional value for each of its placeholders, some of them before it is appended and
the others by calls on the composer. No other call is made on it. -/
structure Offered (actions : List Action) (place : Nat) (predicate : Token)
    (values : List (Option Value)) : Prop where
  unset : ∃ template, predicate.expression? = some { template := template }
  asks : 0 < predicate.placeholders
  complete : values.length = predicate.placeholders
  composed : ∃ early late, early ++ late = values ∧
    (actions.flatMap spelled)[place]? = some (predicate.offered early) ∧
      callsOn place 0 actions = late.map .nullable

theorem Offered.token (offered : Offered actions place predicate values)
    (topology : Option Locator) :
    ((start topology).run actions).composer.tokens[place]? = some (predicate.offered values) := by
  obtain ⟨early, late, rfl, appended, calls⟩ := offered.composed
  have token := tokens_run (start topology) actions place
  rw [token, Token.offered_append, ← calls]
  exact congrArg (Option.map _) appended

/-- The last optional value decides about a predicate. When all are present, the predicate is rendered where
it was composed and its values, in their order, are parameters of the statement, between those of the tokens
before and behind it. When the last one is absent, a composer that melts renders and builds the same as
without the predicate, and a composer that does not melt refuses it. When the last one is present and another
is not, the predicate stays with the values that are present, and the statement is refused because they are
too few. -/
theorem predicate_of_offered (topology : Option Locator)
    (offered : Offered actions place predicate values) :
    let composer := ((start topology).run actions).composer
    let before := composer.tokens.take place
    let after := composer.tokens.drop (place + 1)
    composer.tokens = before ++ predicate.offered values :: after ∧
    (∀ present : List Value, values = present.map some →
      (predicate.offered values).isDead = false ∧
      (predicate.offered values).boundValues = present ∧
      (∀ final, composer.finalTokens = .ok final →
        ∃ front back, final = front ++ predicate.offered values :: back ∧
          front.filter Token.isOperand = before.filter Token.isOperand ∧
          back.filter Token.isOperand = after.filter Token.isOperand) ∧
      ∀ statement, composer.build = .ok statement →
        statement.parameters.contents =
          (shares composer.context.supply before).flatMap brought ++
            present.map (fun value => ⟨predicate.column?, value⟩) ++
              (shares (composer.context.supply.drop (demand before)) after).flatMap brought) ∧
    (values.getLast? = some none →
      (composer.melts = true →
        (∀ final, composer.finalTokens = .ok final ↔
          (composer.without place).finalTokens = .ok final) ∧
        ∀ statement, composer.build = .ok statement ↔
          (composer.without place).build = .ok statement) ∧
      (composer.melts = false → ∃ cause, composer.build = .error (.state cause))) ∧
    ∀ last, values.getLast? = some (some last) → none ∈ values →
      (predicate.offered values).isDead = false ∧
        (predicate.offered values).boundValues = values.reduceOption ∧
        values.reduceOption.length < predicate.placeholders ∧
        ∃ cause, composer.build = .error (.state cause) := by
  intro composer before after
  have found : composer.tokens[place]? = some (predicate.offered values) := offered.token topology
  obtain ⟨template, unset⟩ := offered.unset
  refine ⟨Composer.tokens_split found, ?_, ?_, ?_⟩
  · rintro present rfl
    have body := Token.offered_present unset present
    have alive := Token.isDead_of_expression? body
    have bound := Token.boundValues_of_expression? body
    have someBound : (predicate.offered (present.map some)).boundValues.isEmpty = false := by
      have asks := offered.asks
      rw [← offered.complete, List.length_map] at asks
      rw [bound, List.isEmpty_eq_false_iff]
      exact List.ne_nil_of_length_pos asks
    refine ⟨alive, bound, fun final finalTokens => ?_, fun statement built => ?_⟩
    · exact Composer.finalTokens_split found (Token.isOperand_of_expression? body rfl) finalTokens
    · rw [Composer.contents_of_bound found alive someBound built, boundParameters, bound,
        Token.column?_offered]
  · intro lastAbsent
    have body := Token.expression?_offered unset values
    have dead : (predicate.offered values).isDead = true := by
      rw [Token.isDead_of_expression? body, lastAbsent]
      rfl
    refine ⟨fun melts => ⟨fun final => ?_, fun statement => ?_⟩, fun stays => ?_⟩
    · exact (Composer.finalTokens_without melts found dead final).symm
    · exact (Composer.build_without melts found dead statement).symm
    · apply Composer.build_of_dead stays found dead
      intro omitted
      rw [omitted] at body
      cases body
  · intro last lastPresent someAbsent
    have body := Token.expression?_offered unset values
    rw [lastPresent] at body
    obtain ⟨fewer, misfit⟩ :=
      Token.not_valuesFit_offered unset offered.complete lastPresent someAbsent
    have operand := Token.isOperand_of_expression? body rfl
    exact ⟨Token.isDead_of_expression? body, Token.boundValues_of_expression? body, fewer,
      Composer.build_of_misfit found operand misfit⟩

/-- A range behind a condition. Its upper bound is absent. -/
def openRange : List Action :=
  [.step (.append (.expression "active = 1")), .step (.append (.operator .conjunction)),
    .step (.append (.tokens [(Comparison.between.on "age").offered [some (.integer 20)]])),
    .step (.nullable none)]

theorem build_of_openRange :
    Offered openRange 2 (Comparison.between.on "age") [some (.integer 20), none] ∧
      ((start none).run openRange).composer.build = .ok ⟨"active = 1", ⟨[]⟩⟩ := by
  have offered : Offered openRange 2 (Comparison.between.on "age") [some (.integer 20), none] :=
    ⟨⟨_, rfl⟩, by decide, by decide, [some (.integer 20)], [none], rfl, rfl, rfl⟩
  obtain ⟨-, -, absent, -⟩ := predicate_of_offered none offered
  refine ⟨offered, (((absent rfl).1 rfl).2 _).mpr ?_⟩
  decide

/-- A range whose lower bound is absent. Its upper bound is present. -/
def revivedRange : List Action :=
  [.step (.append (.comparison .between "age")), .step (.nullable none),
    .step (.nullable (some (.integer 30)))]

/-- A predicate with an absent value need not melt away. The upper bound revives the range, and it is refused
with one value for two placeholders, where nothing would be left without it. -/
theorem build_of_revivedRange :
    Offered revivedRange 0 (Comparison.between.on "age") [none, some (.integer 30)] ∧
      ((start none).run revivedRange).composer.build = .error (.state (.valueCount 0 2 1)) ∧
      (((start none).run revivedRange).composer.without 0).build = .ok ⟨"", ⟨[]⟩⟩ := by
  refine ⟨⟨⟨_, rfl⟩, by decide, by decide, [], _, rfl, rfl, rfl⟩, ?_, ?_⟩
  · decide
  · decide

end Session

end SqlTemplate
