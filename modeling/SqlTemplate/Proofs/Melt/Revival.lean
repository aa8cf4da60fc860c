import Mathlib.Data.List.Forall2
import SqlTemplate.Proofs.Melt.Survivors

/-!
This file compares a statement with one in which some absent predicates are present. Every role, outlook and
survey of the second is at least as bright, so that whatever survives in the first survives in the second.
-/

namespace SqlTemplate.Melt

open Nesting

/-- A token may take a place where it stood before, and an operand may take the place of a dead token. -/
def MayReplace (other token : Token) : Prop :=
  other = token ∨ token.isDead = true ∧ other.isOperand = true

/-- The other tokens stand where the tokens stood, with operands in the places of some dead ones. -/
def Revived (tokens others : List Token) : Prop := List.Forall₂ MayReplace others tokens

/-- A role stays, or brightens from a dead one to an operand. -/
def Role.Brightens (role brighter : Role) : Prop :=
  brighter = role ∨ role = .dead ∧ brighter = .operand

/-- The levels have the same brackets, and each role stays or brightens. -/
inductive Brighter : Level Role → Level Role → Prop
  | done : Brighter .done .done
  | item {role brighter : Role} {rest later : Level Role} (brightens : role.Brightens brighter)
      (tail : Brighter rest later) : Brighter (.item role rest) (.item brighter later)
  | group {inner within rest later : Level Role} (head : Brighter inner within)
      (tail : Brighter rest later) : Brighter (.group inner rest) (.group within later)

/-- An outlook promises everything that another one promises. -/
structure Outlook.Below (outlook brighter : Outlook) : Prop where
  operandNext : outlook.operandNext = true → brighter.operandNext = true
  operandInClause : outlook.operandInClause = true → brighter.operandInClause = true
  hasContent : outlook.hasContent = true → brighter.hasContent = true

namespace Outlook

theorem below_fromOperand (outlook : Outlook) : outlook.Below .fromOperand :=
  ⟨fun _ => rfl, fun _ => rfl, fun _ => rfl⟩

/-- Behind a brighter role the outlook stays brighter. -/
theorem Below.past {outlook other : Outlook} (below : outlook.Below other) {role brighter : Role}
    (brightens : role.Brightens brighter) : (outlook.past role).Below (other.past brighter) := by
  obtain ⟨next, inClause, content⟩ := below
  rcases brightens with rfl | ⟨rfl, rfl⟩
  · cases brighter with
    | operand => exact below_fromOperand _
    | dead | negation => exact ⟨next, inClause, content⟩
    | connective => exact ⟨nofun, inClause, content⟩
    | lead => exact ⟨nofun, nofun, content⟩
    | keyword => exact ⟨nofun, nofun, fun _ => rfl⟩
  · exact below_fromOperand _

/-- Behind a brighter group the outlook stays brighter. -/
theorem Below.pastGroup {outlook other inner within : Outlook} (below : outlook.Below other)
    (innerBelow : inner.Below within) :
    (outlook.pastGroup inner).Below (other.pastGroup within) := by
  rw [Outlook.pastGroup, Outlook.pastGroup]
  cases content : inner.hasContent with
  | true =>
      rw [innerBelow.hasContent content]
      exact below_fromOperand _
  | false =>
      rw [if_neg Bool.false_ne_true]
      split
      · exact below_fromOperand _
      · exact below

end Outlook

/-- A brighter level has a brighter outlook. -/
theorem Brighter.outlook {level other : Level Role} (brighter : Brighter level other) :
    (outlook level).Below (Melt.outlook other) := by
  induction brighter with
  | done => exact ⟨id, id, id⟩
  | item brightens _ inductionHypothesis => exact inductionHypothesis.past brightens
  | group _ _ headHypothesis tailHypothesis => exact tailHypothesis.pastGroup headHypothesis

/-- What stays before a darker outlook stays before a brighter one. -/
theorem stays_of_below {operandBefore operandNow : Bool}
    (before : operandBefore = true → operandNow = true) {outlook other : Outlook}
    (below : outlook.Below other) {role brighter : Role} (brightens : role.Brightens brighter)
    (kept : stays operandBefore outlook role = true) : stays operandNow other brighter = true := by
  rcases brightens with rfl | ⟨rfl, rfl⟩
  · cases brighter with
    | operand | keyword => rfl
    | dead => cases kept
    | connective =>
        rw [stays, Bool.and_eq_true] at kept ⊢
        exact ⟨before kept.1, below.operandNext kept.2⟩
    | negation => exact below.operandNext kept
    | lead => exact below.operandInClause kept
  · rfl

/-- An operand before the next item is still there behind a brighter role. -/
theorem operandAfter_of_brightens {operandBefore operandNow : Bool}
    (before : operandBefore = true → operandNow = true) {role brighter : Role}
    (brightens : role.Brightens brighter) (known : operandAfter operandBefore role = true) :
    operandAfter operandNow brighter = true := by
  rcases brightens with rfl | ⟨rfl, rfl⟩
  · cases brighter with
    | operand => rfl
    | lead | keyword => cases known
    | dead | connective | negation => exact before known
  · rfl

/-- Each answer of the survey stays or brightens with the level. -/
theorem Brighter.survey {level other : Level Role} (brighter : Brighter level other)
    {operandBefore operandNow : Bool} (before : operandBefore = true → operandNow = true) :
    List.Forall₂ (fun answer later => answer = true → later = true)
      (survey operandBefore level) (Melt.survey operandNow other) := by
  induction brighter generalizing operandBefore operandNow with
  | done => exact .nil
  | item brightens tail inductionHypothesis =>
      exact .cons (stays_of_below before tail.outlook brightens)
        (inductionHypothesis (operandAfter_of_brightens before brightens))
  | group head tail headHypothesis tailHypothesis =>
      have content := head.outlook.hasContent
      refine .cons content (List.rel_append (headHypothesis id) (.cons content ?_))
      apply tailHypothesis
      rw [Bool.or_eq_true, Bool.or_eq_true]
      exact Or.imp before content

/-- Only a dead token is replaced. -/
theorem MayReplace.eq_of_alive {token other : Token} (replaces : MayReplace other token)
    (alive : token.isDead = false) : other = token := by
  rcases replaces with same | ⟨dead, -⟩
  · exact same
  · rw [alive] at dead
    cases dead

/-- Only an operand replaces another token. -/
theorem MayReplace.isOperand_of_ne {token other : Token} (replaces : MayReplace other token)
    (changed : other ≠ token) : other.isOperand = true := by
  rcases replaces with same | ⟨-, operand⟩
  · exact absurd same changed
  · exact operand

/-- The word that takes the place of a word. -/
theorem MayReplace.exists_word {word : Word} {other : Token}
    (replaces : MayReplace other word.token) :
    ∃ replacement : Word, replacement.token = other ∧ word.role.Brightens replacement.role := by
  rcases replaces with rfl | ⟨dead, operand⟩
  · exact ⟨word, rfl, .inl rfl⟩
  · obtain ⟨replacement, same, role⟩ := exists_word_of_isOperand operand
    exact ⟨replacement, same, .inr ⟨word.kinds.dead.mp dead, role⟩⟩

/-- The other tokens spell a phrase whose roles are brighter. -/
theorem exists_brighter_phrase {phrase : Level Word} {others : List Token}
    (revived : Revived (spelled phrase) others) :
    ∃ other, spelled other = others ∧ Brighter (roles phrase) (roles other) := by
  induction phrase generalizing others with
  | done =>
      rw [Revived, spelled, List.forall₂_nil_right_iff] at revived
      exact ⟨.done, revived.symm, .done⟩
  | item word rest inductionHypothesis =>
      obtain ⟨first, later, replaces, tail, rfl⟩ := List.forall₂_cons_right_iff.mp revived
      obtain ⟨replacement, rfl, brightens⟩ := replaces.exists_word
      obtain ⟨other, rfl, brighter⟩ := inductionHypothesis tail
      exact ⟨.item replacement other, rfl, .item brightens brighter⟩
  | group inner rest innerHypothesis restHypothesis =>
      rw [Revived, spelled, Token.bracketed_append] at revived
      obtain ⟨first, later, opens, tail, rfl⟩ := List.forall₂_cons_right_iff.mp revived
      have within := List.forall₂_take_append _ _ _ tail
      obtain ⟨second, last, closes, behind, split⟩ :=
        List.forall₂_cons_right_iff.mp (List.forall₂_drop_append _ _ _ tail)
      obtain ⟨otherInner, spelledInner, innerBrighter⟩ := innerHypothesis within
      obtain ⟨otherRest, rfl, restBrighter⟩ := restHypothesis behind
      refine ⟨.group otherInner otherRest, ?_, .group innerBrighter restBrighter⟩
      rw [spelled, Token.bracketed_append, spelledInner, ← opens.eq_of_alive rfl,
        ← closes.eq_of_alive rfl, ← split, List.take_append_drop]

/-- A dead token survives nowhere. -/
theorem isDead_of_survives {before after : List Token} {token : Token}
    (survives : Survives before token after) : token.isDead = false := by
  cases token with
  | expression body => exact survives
  | columnExpression columnName body => exact survives
  | omitted => exact survives
  | _ => rfl

/-- An operand survives everywhere. -/
theorem survives_of_isOperand {token : Token} (operand : token.isOperand = true)
    (before after : List Token) : Survives before token after := by
  cases token with
  | expression body => exact Bool.not_eq_eq_eq_not.mp operand
  | columnExpression columnName body => exact Bool.not_eq_eq_eq_not.mp operand
  | keyword word => cases operand
  | operator connective => cases operand
  | bracket half => cases operand
  | omitted => cases operand
  | _ => rfl

/-- The survey of a phrase agrees with the rule at each place. -/
theorem getElem?_survey_iff (phrase : Level Word) (place : Nat)
    (inside : place < (spelled phrase).length) :
    (survey false (roles phrase))[place]? = some true ↔
      Survives ((spelled phrase).take place) (spelled phrase)[place]
        ((spelled phrase).drop (place + 1)) := by
  have atBeginning : false = true ↔ Precedes [] := by simpa using not_precedes_nil
  have closed : Closed [] := by simp [Closed]
  simpa using judged_getElem (judged_spelled phrase atBeginning closed) place inside

/-- Fewer tokens are selected where fewer are to stay. -/
theorem select_sublist_select {tokens others : List Token} {kept later : List Bool}
    (size : others.length = tokens.length) (answered : later.length = tokens.length)
    (each : ∀ place < tokens.length, kept[place]? = some true →
      later[place]? = some true ∧ others[place]? = tokens[place]?) :
    (select tokens kept).Sublist (select others later) := by
  induction tokens generalizing others kept later with
  | nil => exact List.nil_sublist _
  | cons token rest inductionHypothesis =>
      obtain ⟨other, othersRest, rfl⟩ := List.exists_cons_of_length_eq_add_one size
      obtain ⟨answer, laterRest, rfl⟩ := List.exists_cons_of_length_eq_add_one answered
      cases kept with
      | nil => exact List.nil_sublist _
      | cons first keptRest =>
          have tail := inductionHypothesis (Nat.succ.inj size) (Nat.succ.inj answered)
            fun place inside stays => by
              simpa using each (place + 1) (by simpa using inside) (by simpa using stays)
          rw [select_cons, select_cons]
          cases first with
          | false =>
              rw [if_neg Bool.false_ne_true]
              split
              · exact tail.cons other
              · exact tail
          | true =>
              obtain ⟨stays, same⟩ := each 0 (by simp) rfl
              simp only [List.getElem?_cons_zero, Option.some.injEq] at stays same
              rw [stays, same, if_pos rfl, if_pos rfl]
              exact tail.cons_cons token

section Phrases

variable {phrase other : Level Word} (revived : Revived (spelled phrase) (spelled other))

include revived

/-- What stays of a phrase is alive, so it stays with the same token in a brighter one. -/
theorem survey_of_revived (brighter : Brighter (roles phrase) (roles other)) (place : Nat)
    (inside : place < (spelled phrase).length)
    (stays : (survey false (roles phrase))[place]? = some true) :
    (survey false (roles other))[place]? = some true ∧
      (spelled other)[place]? = (spelled phrase)[place]? := by
  have size : (spelled other).length = (spelled phrase).length := revived.length_eq
  have answered := length_survey_roles other false
  have answers : List.Forall₂ (fun answer later => answer = true → later = true)
      (survey false (roles phrase)) (survey false (roles other)) := brighter.survey id
  obtain ⟨within, answer⟩ := List.getElem?_eq_some_iff.mp stays
  have alive := isDead_of_survives ((getElem?_survey_iff phrase place inside).mp stays)
  have same := (revived.get (by omega) inside).eq_of_alive alive
  constructor
  · exact List.getElem?_eq_some_iff.mpr ⟨by omega, answers.get within (by omega) answer⟩
  · rw [List.getElem?_eq_getElem inside]
    exact List.getElem?_eq_some_iff.mpr ⟨by omega, same⟩

/-- Where the tokens of two phrases differ, the second one has an operand, which stays. -/
theorem survey_of_changed (place : Nat) (inside : place < (spelled phrase).length)
    (changed : (spelled other)[place]? ≠ (spelled phrase)[place]?) :
    (survey false (roles other))[place]? = some true := by
  have size : (spelled other).length = (spelled phrase).length := revived.length_eq
  have otherInside : place < (spelled other).length := by omega
  rw [List.getElem?_eq_getElem inside, List.getElem?_eq_getElem otherInside] at changed
  have operand := (revived.get otherInside inside).isOperand_of_ne fun same =>
    changed (congrArg some same)
  exact (getElem?_survey_iff other place otherInside).mpr (survives_of_isOperand operand _ _)

end Phrases

/-- When operands take the places of some dead tokens, every place that survived before survives with the same
token, and the operands survive as well. So what was left of the statement is left of it still. -/
theorem survivors_of_revived {tokens others : List Token} (balanced : Balanced tokens)
    (revived : Revived tokens others) :
    ∃ kept later melted remelted,
      survivors tokens = .ok kept ∧ survivors others = .ok later ∧
      kept.length = tokens.length ∧ later.length = tokens.length ∧
      (∀ place < tokens.length, kept[place]? = some true →
        later[place]? = some true ∧ others[place]? = tokens[place]?) ∧
      (∀ place < tokens.length, others[place]? ≠ tokens[place]? → later[place]? = some true) ∧
      melt tokens = .ok melted ∧ melt others = .ok remelted ∧ melted.Sublist remelted := by
  obtain ⟨phrase, rfl⟩ := exists_phrase balanced
  obtain ⟨other, rfl, brighter⟩ := exists_brighter_phrase revived
  have size : (spelled other).length = (spelled phrase).length := revived.length_eq
  have answered : (survey false (roles other)).length = (spelled phrase).length := by
    rw [length_survey_roles, size]
  refine ⟨_, _, _, _, survivors_flatten (map_mark_spelled phrase),
    survivors_flatten (map_mark_spelled other), length_survey_roles phrase false, answered,
    survey_of_revived revived brighter, survey_of_changed revived, melt_spelled phrase,
    melt_spelled other, ?_⟩
  rw [← select_survey, ← select_survey]
  exact select_sublist_select size answered (survey_of_revived revived brighter)

/-- A condition whose value in the group is absent, or is the given predicate. -/
def conditionOnGroup (predicate : Token) : List Token :=
  [.keyword .condition, .omitted, .operator .conjunction, .bracket .opening, .operator .negation,
    predicate, .bracket .closing, .operator .disjunction, .text "a"]

/-- The lead and the last predicate survive as before, and the predicate in the group survives now. -/
theorem survivors_of_revivedGroup :
    Balanced (conditionOnGroup .omitted) ∧
      Revived (conditionOnGroup .omitted) (conditionOnGroup (.text "b")) ∧
      survivors (conditionOnGroup .omitted) =
        .ok [true, false, false, false, false, false, false, false, true] ∧
      ∃ later, survivors (conditionOnGroup (.text "b")) = .ok later ∧
        later[0]? = some true ∧ later[5]? = some true ∧ later[8]? = some true := by
  have balanced : Balanced (conditionOnGroup .omitted) :=
    (balanced_iff_imbalance?_eq_none _).mpr (by decide)
  have revived : Revived (conditionOnGroup .omitted) (conditionOnGroup (.text "b")) := by
    simp [Revived, conditionOnGroup, MayReplace, Token.isDead, Token.isOperand]
  obtain ⟨kept, later, -, -, result, reached, -, -, each, present, -⟩ :=
    survivors_of_revived balanced revived
  have answers : survivors (conditionOnGroup .omitted) =
      .ok [true, false, false, false, false, false, false, false, true] := by decide
  rw [answers, Except.ok.injEq] at result
  subst result
  exact ⟨balanced, revived, answers, later, reached, (each 0 (by decide) rfl).1,
    present 5 (by decide) (by decide), (each 8 (by decide) rfl).1⟩

end SqlTemplate.Melt
