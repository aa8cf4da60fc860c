import SqlTemplate.Proofs.Composer.Frame
import SqlTemplate.Proofs.Statement.Interchange

/-!
This file proves that it does not matter whether strings are appended as texts or as expressions. All later builds give
the same answers, as long as no call changes the last of the strings.
-/

namespace SqlTemplate

open Token

namespace Clause

/-- Strings without a lone comma are the same tokens, as texts and as expressions. -/
theorem map_expressed_texts {contents : List String} (noComma : Keyword.comma.word ∉ contents) :
    (tokens (contents.map ofText)).spelled.map expressed =
      (tokens (contents.map ofTemplate)).spelled.map expressed := by
  rw [spelled, spelled, List.map_map, List.map_map]
  apply List.map_congr_left
  intro content member
  have notComma : content ≠ Keyword.comma.word := by
    rintro rfl
    exact noComma member
  rw [Function.comp_apply, ofText, if_neg notComma]
  rfl

/-- So are the groups of them. -/
theorem map_expressed_bracketed {contents : List String} (noComma : Keyword.comma.word ∉ contents) :
    (tokens (Token.bracketed (contents.map ofText))).spelled.map expressed =
      (bracketed (contents.map ofTemplate)).spelled.map expressed := by
  have inner := map_expressed_texts noComma
  rw [spelled, spelled] at inner
  simp only [spelled, Token.bracketed, List.map_append, List.map_cons, inner]

end Clause

namespace Composer

/-- Two composers that are the same but for texts in place of expressions. -/
structure Interchanged (first second : Composer) : Prop where
  tokens : first.tokens.map expressed = second.tokens.map expressed
  context : first.context = second.context
  melts : first.melts = second.melts
  misuse : first.misuse = second.misuse

namespace Interchanged

variable {first second : Composer}

theorem refl (composer : Composer) : composer.Interchanged composer :=
  ⟨rfl, rfl, rfl, rfl⟩

/-- Tokens that may stand for others make no difference to a composer. -/
theorem of_tokens {tokens others : List Token}
    (interchanged : List.Forall₂ Interchangeable tokens others) (composer : Composer) :
    Interchanged { composer with tokens := tokens } { composer with tokens := others } :=
  ⟨(forall₂_interchangeable_iff _ _).mp interchanged, rfl, rfl, rfl⟩

/-- Both build the same statement, or fail with the same fault. -/
theorem build (interchanged : first.Interchanged second) : first.build = second.build := by
  have pairs := (forall₂_interchangeable_iff _ _).mpr interchanged.tokens
  rw [Composer.build, Composer.build, interchanged.misuse, finalTokens, finalTokens,
    interchanged.melts, interchanged.context]
  cases second.misuse with
  | some misuse => rfl
  | none =>
      cases second.melts with
      | false => exact Statement.render_of_interchanged pairs second.context
      | true =>
          rcases Melt.melt_of_interchanged pairs with
            ⟨fault, failed, failedToo⟩ | ⟨kept, others, melted, meltedToo, left⟩
          · rw [if_pos rfl, if_pos rfl, failed, failedToo]
          · rw [if_pos rfl, if_pos rfl, melted, meltedToo]
            exact Statement.render_of_interchanged left second.context

/-- The same tokens are appended to both. -/
theorem append (interchanged : first.Interchanged second) {clause other : Clause}
    (spelled : clause.spelled.map expressed = other.spelled.map expressed) :
    (first.append clause).Interchanged (second.append other) where
  tokens := by
    rw [Composer.append, Composer.append, List.map_append, List.map_append, interchanged.tokens,
      spelled]
  context := interchanged.context
  melts := interchanged.melts
  misuse := interchanged.misuse

/-- A call on the last expression does the same to both when they end with the same token, and then they still do. -/
theorem changeLast (interchanged : first.Interchanged second)
    (sameLast : first.tokens.getLast? = second.tokens.getLast?) (call : ExpressionCall)
    (change : Expression → Expression) :
    (first.changeLast call change).Interchanged (second.changeLast call change) ∧
      (first.changeLast call change).tokens.getLast? =
        (second.changeLast call change).tokens.getLast? := by
  obtain ⟨tokens, context, melts, misuse⟩ := interchanged
  have recorded (cause : StateFault) :
      (first.recordMisuse cause).Interchanged (second.recordMisuse cause) ∧
        (first.recordMisuse cause).tokens.getLast? = (second.recordMisuse cause).tokens.getLast? :=
    ⟨⟨tokens, context, melts, congrArg (Option.or · (some cause)) misuse⟩, sameLast⟩
  rw [Composer.changeLast, Composer.changeLast, ← sameLast]
  cases first.tokens.getLast? with
  | none => exact recorded _
  | some last =>
      dsimp only
      split
      · refine ⟨⟨?_, context, melts, misuse⟩, ?_⟩
        · rw [List.map_append, List.map_append, List.map_dropLast, List.map_dropLast, tokens]
        · rw [List.getLast?_concat, List.getLast?_concat]
      · exact recorded _

end Interchanged

end Composer

namespace Session

open SqlTemplate.Action

/-- No call is made on what was appended last before something else is appended. -/
def Spares : List Action → Prop
  | [] => True
  | action :: rest => action.mutation? = none ∧ (action.spelled = [] → Spares rest)

/-- Two sessions whose composers are interchanged and whose builds gave the same answers. -/
structure Interchanged (first second : Session) : Prop where
  composer : first.composer.Interchanged second.composer
  answers : first.answers = second.answers

/-- Two sessions whose composers end with the same token. -/
def SameLast (first second : Session) : Prop :=
  first.composer.tokens.getLast? = second.composer.tokens.getLast?

variable {first second : Session}

theorem tokens_after {action : Action} (noCall : action.mutation? = none) (session : Session) :
    (session.after action).composer.tokens = session.composer.tokens ++ action.spelled := by
  cases action with
  | build => exact (List.append_nil _).symm
  | step step =>
      cases step with
      | append => rfl
      | withoutMelting | context => exact (List.append_nil _).symm
      | nullable | setNullable | bind => cases noCall

namespace Interchanged

/-- Any action but a call on the last expression does the same to both. -/
theorem after_of_noCall (interchanged : first.Interchanged second) {action : Action}
    (noCall : action.mutation? = none) :
    (first.after action).Interchanged (second.after action) := by
  obtain ⟨composer, answers⟩ := interchanged
  cases action with
  | build =>
      refine ⟨composer, ?_⟩
      rw [after, after, answers, composer.build]
  | step step =>
      refine ⟨?_, answers⟩
      cases step with
      | append clause => exact composer.append rfl
      | withoutMelting => exact ⟨composer.tokens, composer.context, rfl, composer.misuse⟩
      | context change =>
          exact ⟨composer.tokens, congrArg (Context.after · change) composer.context, composer.melts,
            composer.misuse⟩
      | nullable | setNullable | bind => cases noCall

/-- While both end with the same token, every action does the same to both. -/
theorem after_of_sameLast (interchanged : first.Interchanged second) (sameLast : first.SameLast second)
    (action : Action) :
    (first.after action).Interchanged (second.after action) ∧
      (first.after action).SameLast (second.after action) := by
  have call (call : ExpressionCall) (change : Expression → Expression) :=
    interchanged.composer.changeLast sameLast call change
  cases noCall : action.mutation? with
  | none =>
      refine ⟨interchanged.after_of_noCall noCall, ?_⟩
      rw [SameLast, tokens_after noCall, tokens_after noCall, List.getLast?_append,
        List.getLast?_append, sameLast]
  | some mutation =>
      cases action with
      | build => cases noCall
      | step step =>
          cases step with
          | nullable | setNullable | bind => exact ⟨⟨(call _ _).1, interchanged.answers⟩, (call _ _).2⟩
          | append | withoutMelting | context => cases noCall

theorem answers_run_of_sameLast (interchanged : first.Interchanged second)
    (sameLast : first.SameLast second) (actions : List Action) :
    (first.run actions).answers = (second.run actions).answers := by
  induction actions generalizing first second with
  | nil => exact interchanged.answers
  | cons action rest inductionHypothesis =>
      obtain ⟨next, stillSame⟩ := interchanged.after_of_sameLast sameLast action
      exact inductionHypothesis next stillSame

/-- Actions that spare the last token get the same answers from both. -/
theorem answers_run (interchanged : first.Interchanged second) {actions : List Action}
    (spares : Spares actions) : (first.run actions).answers = (second.run actions).answers := by
  induction actions generalizing first second with
  | nil => exact interchanged.answers
  | cons action rest inductionHypothesis =>
      obtain ⟨noCall, later⟩ := spares
      have next := interchanged.after_of_noCall noCall
      rw [run_cons, run_cons]
      cases appended : action.spelled with
      | nil => exact inductionHypothesis next (later appended)
      | cons token others =>
          apply next.answers_run_of_sameLast
          rw [SameLast, tokens_after noCall, tokens_after noCall, appended,
            List.getLast?_append_of_ne_nil _ (List.cons_ne_nil _ _),
            List.getLast?_append_of_ne_nil _ (List.cons_ne_nil _ _)]

end Interchanged

/-- After the same tokens are appended as texts and as expressions, the sessions are interchanged. -/
theorem interchanged_append (session : Session) {clause other : Clause}
    (spelled : clause.spelled.map expressed = other.spelled.map expressed) :
    (session.after (.step (.append clause))).Interchanged
      (session.after (.step (.append other))) :=
  ⟨(Composer.Interchanged.refl session.composer).append spelled, rfl⟩

/-- A group ends with its closing bracket. -/
theorem getLast?_bracketed (before inner : List Token) :
    (before ++ bracketed inner).getLast? = some (.bracket .closing) := by
  rw [bracketed, ← List.append_assoc, List.getLast?_concat]

/-- Texts and expressions without values are interchangeable. Wherever they stand in for each other, the same places
melt, and what is rendered or built is the same statement, or is refused with the same fault. So strings, none of
which is a lone comma, may be appended as texts or as expressions, with brackets around them or without: it makes no
difference to what the composer builds, nor to later builds before which no call changes the last string. -/
theorem answers_of_interchanged :
    (∀ first second : List Token, List.Forall₂ Interchangeable first second →
      Melt.survivors first = Melt.survivors second ∧
      ((∃ fault, Melt.melt first = .error fault ∧ Melt.melt second = .error fault) ∨
        ∃ kept others, Melt.melt first = .ok kept ∧ Melt.melt second = .ok others ∧
          List.Forall₂ Interchangeable kept others) ∧
      (∀ context, Statement.render context first = Statement.render context second) ∧
      ∀ composer : Composer,
        { composer with tokens := first }.build = { composer with tokens := second }.build) ∧
    ∀ contents : List String, Keyword.comma.word ∉ contents →
      (∀ composer : Composer,
        (composer.append (.tokens (contents.map ofText))).build =
          (composer.append (.tokens (contents.map ofTemplate))).build ∧
        (composer.append (.tokens (bracketed (contents.map ofText)))).build =
          (composer.append (.bracketed (contents.map ofTemplate))).build) ∧
      ∀ (session : Session) (later : List Action),
        (Spares later →
          (session.run (.step (.append (.tokens (contents.map ofText))) :: later)).answers =
            (session.run (.step (.append (.tokens (contents.map ofTemplate))) :: later)).answers) ∧
        (session.run (.step (.append (.tokens (bracketed (contents.map ofText)))) :: later)).answers =
          (session.run (.step (.append (.bracketed (contents.map ofTemplate))) :: later)).answers := by
  refine ⟨fun first second interchanged => ?_, fun contents noComma => ⟨fun composer => ?_, ?_⟩⟩
  · exact ⟨Melt.survivors_of_interchanged interchanged, Melt.melt_of_interchanged interchanged,
      Statement.render_of_interchanged interchanged,
      fun composer => (Composer.Interchanged.of_tokens interchanged composer).build⟩
  · have itself := Composer.Interchanged.refl composer
    exact ⟨(itself.append (Clause.map_expressed_texts noComma)).build,
      (itself.append (Clause.map_expressed_bracketed noComma)).build⟩
  · intro session later
    constructor
    · exact (session.interchanged_append (Clause.map_expressed_texts noComma)).answers_run
    · have groups := session.interchanged_append (Clause.map_expressed_bracketed noComma)
      apply groups.answers_run_of_sameLast
      exact (getLast?_bracketed _ _).trans (getLast?_bracketed _ _).symm

/-- A condition in two pieces. Each piece asks for a value. -/
def dueOrders : List String := ["total > ?", "AND state = ?"]

/-- Values for both pieces are supplied, and their placeholders are numbered. -/
def supplied : Session :=
  { composer :=
      { tokens := [.keyword .condition]
        context :=
          { chosenDialect := some .postgreSql
            parameters := some (.ofList [⟨none, .integer 90⟩, ⟨none, .text "open"⟩]) } } }

/-- The condition goes on, and the value it asks for last is absent. -/
def narrowed : List Action :=
  [.build, .step (.append (.operator .conjunction)), .step (.append (.comparison .equal "owner")),
    .step (.nullable none), .build]

theorem answers_of_dueOrders :
    Keyword.comma.word ∉ dueOrders ∧ Spares narrowed ∧
      List.Forall₂ Interchangeable (dueOrders.map .text) (dueOrders.map ofTemplate) ∧
      Melt.survivors (dueOrders.map .text) = .ok [true, true] ∧
      (supplied.run (.step (.append (.tokens (dueOrders.map ofText))) :: narrowed)).answers =
        List.replicate 2
          (.ok ⟨"WHERE total > $1 AND state = $2",
            ⟨[⟨⟨none, .integer 90⟩, 1⟩, ⟨⟨none, .text "open"⟩, 2⟩]⟩⟩) ∧
      (supplied.composer.append (.tokens (bracketed (dueOrders.map ofText)))).build =
        .ok ⟨"WHERE(total > $1 AND state = $2)",
          ⟨[⟨⟨none, .integer 90⟩, 1⟩, ⟨⟨none, .text "open"⟩, 2⟩]⟩⟩ := by
  obtain ⟨tokenwise, appended⟩ := answers_of_interchanged
  have noComma : Keyword.comma.word ∉ dueOrders := by decide
  have spares : Spares narrowed := by
    refine ⟨rfl, fun _ => ⟨rfl, fun appends => ?_⟩⟩
    cases appends
  have expressed : List.Forall₂ Interchangeable (dueOrders.map .text) (dueOrders.map ofTemplate) :=
    .cons (.expressed _) (.cons (.expressed _) .nil)
  obtain ⟨built, answered⟩ := appended dueOrders noComma
  refine ⟨noComma, spares, expressed, ?_, ?_, ?_⟩
  · rw [(tokenwise _ _ expressed).1]
    decide
  · rw [(answered supplied narrowed).1 spares]
    decide
  · rw [(built supplied.composer).2]
    decide

/-- A lone comma is spaced as the keyword in a text, and as any other expression in an expression. -/
example :
    let columns := ["a", ",", "b"]
    let empty := Composer.fresh none
    (empty.append (.tokens (columns.map ofText))).build = .ok ⟨"a, b", .empty⟩ ∧
      (empty.append (.tokens (columns.map ofTemplate))).build = .ok ⟨"a , b", .empty⟩ := by
  decide

end Session

end SqlTemplate
