import SqlTemplate.Proofs.Melt.Item

/-!
This file says of each place of a statement when its token survives, and proves that the one pass over
the statement finds exactly these tokens. The rule looks both ways on the bracket level of the place.
-/

namespace SqlTemplate.Melt

open Nesting

/-- A token survives between what stands before it and what stands after it. Both brackets of a pair
survive when there is content between them. A negation needs an operand next, a connective also one
before it in its clause, and a lead one in the clause that it leads. -/
def Survives (before : List Token) (token : Token) (after : List Token) : Prop :=
  match token with
  | .bracket .opening => ∃ inner rest,
      after = inner ++ .bracket .closing :: rest ∧ Balanced inner ∧ HasContent inner
  | .bracket .closing => ∃ earlier inner,
      before = earlier ++ .bracket .opening :: inner ∧ Balanced inner ∧ HasContent inner
  | .operator .negation => Follows Item.IsOverlooked after
  | .operator _ => Follows Item.IsOverlooked after ∧ Precedes before
  | .keyword word => word.leadsPredicate = true → Follows Item.IsWithinClause after
  | token => token.isDead = false

/-- Whether a word survives depends on its role alone. -/
theorem survives_word_iff (word : Word) (before after : List Token) :
    Survives before word.token after ↔
      match word.role with
      | .operand | .keyword => True
      | .dead => False
      | .connective => Follows Item.IsOverlooked after ∧ Precedes before
      | .negation => Follows Item.IsOverlooked after
      | .lead => Follows Item.IsWithinClause after := by
  obtain ⟨token, notBracket⟩ := word
  cases token with
  | bracket half => cases notBracket
  | keyword name =>
      cases leads : name.leadsPredicate <;> simp [Word.role, mark, keywordRole, Survives, leads]
  | operator connective =>
      cases connective <;> simp [Word.role, mark, operatorRole, Operator.isBinary, Survives]
  | expression body =>
      cases absent : body.isAbsent <;>
        simp [Word.role, mark, expressionRole, Survives, Token.isDead, absent]
  | columnExpression columnName body =>
      cases absent : body.isAbsent <;>
        simp [Word.role, mark, expressionRole, Survives, Token.isDead, absent]
  | _ => simp [Word.role, mark, Survives, Token.isDead]

/-- Looking to the right from a word that is no operand goes past it. -/
theorem follows_word_cons (passed : Item → Prop) (word : Word) (after : List Token) :
    Follows passed (word.token :: after) ↔
      word.role = .operand ∨ (passed word.item ∧ Follows passed after) := by
  rw [← word.kinds.operand]
  exact follows_item_append passed word.item after

/-- Looking to the right from a group without content goes past it. -/
theorem follows_group_append (passed : Item → Prop) (inner : Level Word) (after : List Token) :
    Follows passed (Token.bracketed (spelled inner) ++ after) ↔
      (outlook (roles inner)).hasContent = true ∨
        (passed (groupItem inner) ∧ Follows passed after) := by
  rw [hasContent_outlook_iff]
  exact follows_item_append passed (groupItem inner) after

/-- The outlook sees the operand that comes next. -/
theorem operandNext_outlook_iff (phrase : Level Word) {after : List Token} (closed : Closed after) :
    (outlook (roles phrase)).operandNext = true ↔
      Follows Item.IsOverlooked (spelled phrase ++ after) := by
  induction phrase with
  | done =>
      simpa [roles, outlook, Outlook.nothing, spelled] using not_follows_of_closed closed
  | item word rest inductionHypothesis =>
      have overlooked : Item.IsOverlooked word.item ↔ word.role = .dead ∨ word.role = .negation :=
        or_congr word.kinds.dead word.kinds.negation
      rw [spelled, List.cons_append, follows_word_cons, overlooked, ← inductionHypothesis, roles,
        outlook]
      cases word.role <;> simp [Outlook.past, Outlook.fromOperand]
  | group inner rest innerHypothesis restHypothesis =>
      have overlooked : Item.IsOverlooked (groupItem inner) ↔
          ¬ (outlook (roles inner)).hasContent = true :=
        not_congr (hasContent_outlook_iff inner).symm
      rw [spelled, List.append_assoc, follows_group_append, overlooked, ← restHypothesis, roles,
        outlook]
      cases content : (outlook (roles inner)).hasContent <;>
        simp [Outlook.pastGroup, content, Outlook.fromOperand]

/-- The outlook sees an operand before the next keyword. -/
theorem operandInClause_outlook_iff (phrase : Level Word) {after : List Token}
    (closed : Closed after) :
    (outlook (roles phrase)).operandInClause = true ↔
      Follows Item.IsWithinClause (spelled phrase ++ after) := by
  induction phrase with
  | done =>
      simpa [roles, outlook, Outlook.nothing, spelled] using not_follows_of_closed closed
  | item word rest inductionHypothesis =>
      have within : Item.IsWithinClause word.item ↔ word.role ≠ .keyword ∧ word.role ≠ .lead :=
        word.kinds.keyword
      rw [spelled, List.cons_append, follows_word_cons, within, ← inductionHypothesis, roles,
        outlook]
      cases word.role <;> simp [Outlook.past, Outlook.fromOperand]
  | group inner rest innerHypothesis restHypothesis =>
      have within : Item.IsWithinClause (groupItem inner) ↔ True := Iff.rfl
      rw [spelled, List.append_assoc, follows_group_append, within, true_and, ← restHypothesis,
        roles, outlook]
      cases content : (outlook (roles inner)).hasContent <;>
        simp [Outlook.pastGroup, content, Outlook.fromOperand]

/-- Behind a word an operand precedes as the role of the word says. -/
theorem precedes_append_word_iff {operandBefore : Bool} {before : List Token} (word : Word)
    (known : operandBefore = true ↔ Precedes before) :
    operandAfter operandBefore word.role = true ↔ Precedes (before ++ [word.token]) := by
  have split := precedes_append_item before word.item
  simp only [Word.item, Item.tokens, Item.IsOperand, Item.IsWithinClause, word.kinds.operand,
    word.kinds.keyword, ← known] at split
  rw [split]
  cases word.role <;> simp [operandAfter]

/-- Behind a group an operand precedes when the group has content. -/
theorem precedes_append_group_iff {operandBefore : Bool} {before : List Token} (inner : Level Word)
    (known : operandBefore = true ↔ Precedes before) :
    (operandBefore || (outlook (roles inner)).hasContent) = true ↔
      Precedes (before ++ Token.bracketed (spelled inner)) := by
  have split := precedes_append_item before (groupItem inner)
  simp only [groupItem, Item.tokens, Item.IsOperand, Item.IsWithinClause, true_and, ← known,
    ← hasContent_outlook_iff] at split
  rw [split, Bool.or_eq_true, or_comm]

/-- The answers agree with the rule, token by token. -/
def Judged (before : List Token) : List Token → List Token → List Bool → Prop
  | [], _, [] => True
  | token :: rest, after, answer :: answers =>
      (answer = true ↔ Survives before token (rest ++ after)) ∧
        Judged (before ++ [token]) rest after answers
  | _, _, _ => False

theorem judged_append {before first second after : List Token} {answers later : List Bool}
    (firstJudged : Judged before first (second ++ after) answers)
    (secondJudged : Judged (before ++ first) second after later) :
    Judged before (first ++ second) after (answers ++ later) := by
  induction first generalizing before answers with
  | nil =>
      cases answers with
      | nil => simpa using secondJudged
      | cons answer answers => exact firstJudged.elim
  | cons token rest inductionHypothesis =>
      cases answers with
      | nil => exact firstJudged.elim
      | cons answer answers =>
          have same : rest ++ (second ++ after) = (rest ++ second) ++ after := by
            rw [List.append_assoc]
          refine ⟨same ▸ firstJudged.1, inductionHypothesis firstJudged.2 ?_⟩
          rw [List.append_assoc]
          exact secondJudged

/-- The brackets of a group are judged with what is between them. -/
theorem judged_group {before after : List Token} {inner : Level Word} {answers : List Bool}
    (judged : Judged (before ++ [.bracket .opening]) (spelled inner)
      (.bracket .closing :: after) answers) :
    Judged before (Token.bracketed (spelled inner)) after
      ((outlook (roles inner)).hasContent ::
        (answers ++ [(outlook (roles inner)).hasContent])) := by
  have balanced := balanced_spelled inner
  constructor
  · rw [hasContent_outlook_iff]
    constructor
    · intro content
      exact ⟨spelled inner, after, by simp, balanced, content⟩
    · rintro ⟨other, rest, split, otherBalanced, content⟩
      have same : spelled inner ++ .bracket .closing :: after =
          other ++ .bracket .closing :: rest := by
        simpa using split
      rwa [(balanced_append_closing_inj balanced otherBalanced same).1]
  · refine judged_append judged ⟨?_, trivial⟩
    rw [hasContent_outlook_iff]
    constructor
    · intro content
      exact ⟨before, spelled inner, by simp, balanced, content⟩
    · rintro ⟨earlier, other, split, otherBalanced, content⟩
      have same : before ++ (groupItem inner).tokens =
          earlier ++ (Item.group other otherBalanced).tokens := by
        have closed := congrArg (fun tokens => tokens ++ [Token.bracket .closing]) split
        simpa [groupItem, Item.tokens, Token.bracketed] using closed
      obtain ⟨items, -⟩ := append_item_inj same
      rw [groupItem, Item.group.injEq] at items
      rwa [items]

/-- The survey of a phrase agrees with the rule, wherever the phrase stands. -/
theorem judged_spelled (phrase : Level Word) {operandBefore : Bool} {before after : List Token}
    (known : operandBefore = true ↔ Precedes before) (closed : Closed after) :
    Judged before (spelled phrase) after (survey operandBefore (roles phrase)) := by
  induction phrase generalizing operandBefore before after with
  | done => trivial
  | item word rest inductionHypothesis =>
      refine ⟨?_, inductionHypothesis (precedes_append_word_iff word known) closed⟩
      rw [survives_word_iff, ← operandNext_outlook_iff rest closed,
        ← operandInClause_outlook_iff rest closed, ← known]
      cases word.role <;> simp [stays, and_comm]
  | group inner rest innerHypothesis restHypothesis =>
      have atOpening : false = true ↔ Precedes (before ++ [.bracket .opening]) := by
        simpa using not_precedes_opening before
      have withinClosed : Closed (.bracket .closing :: (spelled rest ++ after)) := by
        simp [Closed]
      have group := judged_group (innerHypothesis atOpening withinClosed)
      have later := restHypothesis (precedes_append_group_iff inner known) closed
      simpa [spelled, roles, survey] using judged_append group later

/-- Each answer of a judgement agrees with the rule at its place. -/
theorem judged_getElem {before tokens after : List Token} {answers : List Bool}
    (judged : Judged before tokens after answers) (place : Nat) (inside : place < tokens.length) :
    answers[place]? = some true ↔
      Survives (before ++ tokens.take place) tokens[place] (tokens.drop (place + 1) ++ after) := by
  induction tokens generalizing before answers place with
  | nil => simp at inside
  | cons token rest inductionHypothesis =>
      cases answers with
      | nil => exact judged.elim
      | cons answer answers =>
          cases place with
          | zero => simpa using judged.1
          | succ place =>
              have later := inductionHypothesis judged.2 place (by simpa using inside)
              simpa using later

/-- The pass over a statement with balanced brackets succeeds, and a token stays exactly when it
survives by the rule between what stands before it and what stands after it. -/
theorem survivors_eq_ok_iff_survives (tokens : List Token) (balanced : Balanced tokens) :
    ∃ kept, survivors tokens = .ok kept ∧ kept.length = tokens.length ∧
      ∀ (place : Nat) (inside : place < tokens.length), kept[place]? = some true ↔
        Survives (tokens.take place) tokens[place] (tokens.drop (place + 1)) := by
  obtain ⟨phrase, rfl⟩ := exists_phrase balanced
  refine ⟨survey false (roles phrase), survivors_flatten (map_mark_spelled phrase),
    length_survey_roles phrase false, fun place inside => ?_⟩
  have atBeginning : false = true ↔ Precedes [] := by simpa using not_precedes_nil
  have closed : Closed [] := by simp [Closed]
  have judged := judged_spelled phrase atBeginning closed
  simpa using judged_getElem judged place inside

/-- The connective goes although an operand follows it, because no operand stands before it: the group
there has no content. -/
theorem not_survives_connective_behind_emptied_group :
    ¬ Survives [.keyword .condition, .bracket .opening, .omitted, .bracket .closing]
      (.operator .conjunction) [.operator .negation, .text "a"] := by
  have balanced : Balanced [.keyword .condition, .bracket .opening, .omitted, .bracket .closing,
      .operator .conjunction, .operator .negation, .text "a"] :=
    (balanced_iff_imbalance?_eq_none _).mpr (by decide)
  obtain ⟨kept, result, -, exact⟩ := survivors_eq_ok_iff_survives _ balanced
  have answers : kept = [true, false, false, false, false, true, true] := by
    cases result
    rfl
  intro survives
  have stays := (exact 4 (by decide)).mpr survives
  rw [answers] at stays
  cases stays

end SqlTemplate.Melt
