import SqlTemplate.Proofs.Melt.Item

/-!
This file says by the neighbours of each token when a statement is well formed, and proves that melting
gives a well-formed statement and changes none that is well formed already. On phrases the neighbours
are those of the items of a level.
-/

namespace SqlTemplate

namespace Token

/-- A predicate can begin with the token. -/
def beginsTerm (token : Token) : Bool := token.isOperand || token.isOpening || token.isNegation

/-- A predicate can end with the token. -/
def endsTerm (token : Token) : Bool := token.isOperand || token.isClosing

/-- The token fits between its neighbours. -/
def fits (previous : Option Token) (token : Token) (next : Option Token) : Bool :=
  match token with
  | .bracket .opening => !next.any isClosing
  | .operator .negation => next.any beginsTerm
  | .operator _ => previous.any endsTerm && next.any beginsTerm
  | .keyword word => !word.leadsPredicate || next.any beginsTerm
  | token => !token.isDead

end Token

/-- A statement is well formed when its brackets are balanced and each token fits between its
neighbours. -/
structure WellFormed (tokens : List Token) : Prop where
  balanced : Balanced tokens
  fits : ∀ (before : List Token) (token : Token) (after : List Token),
    tokens = before ++ token :: after → token.fits before.getLast? after.head? = true

namespace Melt

open Nesting

/-- Every token fits when the tokens stand between the given neighbours. -/
def fitting (previous : Option Token) (next : Option Token) : List Token → Bool
  | [] => true
  | token :: rest => token.fits previous (rest.head?.or next) && fitting (some token) next rest

theorem fitting_append (first second : List Token) (previous next : Option Token) :
    fitting previous next (first ++ second) =
      (fitting previous (second.head?.or next) first &&
        fitting (first.getLast?.or previous) next second) := by
  induction first generalizing previous with
  | nil => simp [fitting]
  | cons token rest inductionHypothesis =>
      have last : ((token :: rest).getLast?.or previous) = rest.getLast?.or (some token) := by
        cases rest with
        | nil => rfl
        | cons other later => simp [List.getLast?_cons]
      rw [List.cons_append, fitting, inductionHypothesis, fitting, last, List.head?_append,
        Option.or_assoc, Bool.and_assoc]

/-- Every token fits exactly when each one fits between its neighbours. -/
theorem fitting_iff_forall (tokens : List Token) :
    fitting none none tokens = true ↔
      ∀ (before : List Token) (token : Token) (after : List Token),
        tokens = before ++ token :: after → token.fits before.getLast? after.head? = true := by
  constructor
  · rintro allFit before token after rfl
    rw [fitting_append, fitting, Bool.and_eq_true, Bool.and_eq_true] at allFit
    simpa using allFit.2.1
  · intro each
    suffices general : ∀ before, (∀ first token after,
        tokens = first ++ token :: after →
          token.fits ((before ++ first).getLast?) after.head? = true) →
        fitting before.getLast? none tokens = true from general [] (by simpa using each)
    clear each
    induction tokens with
    | nil => simp [fitting]
    | cons token rest inductionHypothesis =>
        intro before each
        rw [fitting, Bool.and_eq_true]
        constructor
        · simpa using each [] token rest rfl
        · have later := inductionHypothesis (before ++ [token]) fun first other after split => by
            rw [List.append_assoc]
            exact each (token :: first) other after (by simp [split])
          simpa using later

/-- A predicate can begin with an operand or a negation. -/
def beginsRole (role : Role) : Bool := decide (role = .operand) || decide (role = .negation)

/-- The level begins with what a predicate can begin with. -/
def begins : Level Role → Bool
  | .done => false
  | .item role _ => beginsRole role
  | .group _ _ => true

/-- A role fits when it is known whether a predicate ends before it and whether one begins after
it. -/
def fitsRole (ended beginning : Bool) : Role → Bool
  | .operand | .keyword => true
  | .dead => false
  | .connective => ended && beginning
  | .negation | .lead => beginning

/-- Every item of a level fits between its neighbours. It is known whether a predicate ends in front
of the level. -/
def tidy (ended : Bool) : Level Role → Bool
  | .done => true
  | .item role rest => fitsRole ended (begins rest) role && tidy (decide (role = .operand)) rest
  | .group inner rest => decide (inner ≠ .done) && tidy false inner && tidy true rest

/-- Whether a word fits depends on its role and its neighbours. -/
theorem fits_word (word : Word) (previous next : Option Token) :
    word.token.fits previous next =
      fitsRole (previous.any Token.endsTerm) (next.any Token.beginsTerm) word.role := by
  obtain ⟨token, notBracket⟩ := word
  cases token with
  | bracket half => cases notBracket
  | keyword name =>
      cases leads : name.leadsPredicate <;>
        simp [Word.role, mark, keywordRole, Token.fits, fitsRole, leads]
  | operator connective =>
      cases connective <;>
        simp [Word.role, mark, operatorRole, Operator.isBinary, Token.fits, fitsRole]
  | expression body =>
      cases absent : body.isAbsent <;>
        simp [Word.role, mark, expressionRole, Token.fits, fitsRole, Token.isDead, absent]
  | columnExpression columnName body =>
      cases absent : body.isAbsent <;>
        simp [Word.role, mark, expressionRole, Token.fits, fitsRole, Token.isDead, absent]
  | _ => rfl

/-- A predicate begins with an operand or a negation and ends with an operand. -/
theorem begins_ends_word (word : Word) :
    word.token.beginsTerm = beginsRole word.role ∧
      word.token.endsTerm = decide (word.role = .operand) := by
  have operand : word.token.isOperand = decide (word.role = .operand) := by
    rw [Bool.eq_iff_iff, word.kinds.operand, decide_eq_true_eq]
  have negation : word.token.isNegation = decide (word.role = .negation) := by
    rw [Bool.eq_iff_iff, word.kinds.negation, decide_eq_true_eq]
  rw [Token.beginsTerm, Token.endsTerm, word.isOpening_token, word.isClosing_token, operand,
    negation]
  simp only [Bool.or_false, beginsRole, and_self]

/-- A level begins as its first token does. -/
theorem begins_roles (phrase : Level Word) {next : Option Token}
    (nextBegins : next.any Token.beginsTerm = false) :
    ((spelled phrase).head?.or next).any Token.beginsTerm = begins (roles phrase) := by
  cases phrase with
  | done => simpa [spelled, roles, begins] using nextBegins
  | item word rest =>
      rw [spelled, List.head?_cons, Option.some_or, Option.any_some, (begins_ends_word word).1, roles,
        begins]
  | group inner rest => rfl

/-- An opening bracket fits in front of anything but its partner. -/
theorem fits_opening (inner : Level Word) (previous : Option Token) :
    Token.fits previous (.bracket .opening)
      ((spelled inner).head?.or (some (.bracket .closing))) = decide (roles inner ≠ .done) := by
  cases inner with
  | done => rfl
  | item word rest => simp [spelled, roles, Token.fits, word.isClosing_token]
  | group within rest => simp [spelled, roles, Token.fits, Token.bracketed, Token.isClosing]

/-- The tokens of a phrase fit when its level is tidy. -/
theorem fitting_spelled (phrase : Level Word) (previous next : Option Token)
    (nextBegins : next.any Token.beginsTerm = false) :
    fitting previous next (spelled phrase) =
      tidy (previous.any Token.endsTerm) (roles phrase) := by
  induction phrase generalizing previous next with
  | done => rfl
  | item word rest inductionHypothesis =>
      rw [spelled, fitting, fits_word, begins_roles rest nextBegins,
        inductionHypothesis (some word.token) next nextBegins, Option.any_some,
        (begins_ends_word word).2, roles, tidy]
  | group inner rest innerHypothesis restHypothesis =>
      have within := innerHypothesis (some (.bracket .opening)) (some (.bracket .closing)) rfl
      have later := restHypothesis (some (.bracket .closing)) next nextBegins
      have head : (spelled inner ++ .bracket .closing :: spelled rest).head?.or next =
          (spelled inner).head?.or (some (.bracket .closing)) := by
        cases spelled inner <;> rfl
      rw [spelled, Token.bracketed_append, fitting, head, fits_opening, fitting_append,
        List.head?_cons, Option.some_or, within, fitting, later, roles, tidy, Bool.and_assoc]
      rfl

/-- A tidy level that begins with a predicate has an operand next, and a tidy level that is not empty
has content. -/
theorem outlook_of_tidy (level : Level Role) (ended : Bool) (isTidy : tidy ended level = true) :
    (begins level = true → (outlook level).operandNext = true) ∧
      (ended = false → level ≠ .done → (outlook level).hasContent = true) := by
  induction level generalizing ended with
  | done => exact ⟨nofun, fun _ notEmpty => (notEmpty rfl).elim⟩
  | item role rest inductionHypothesis =>
      rw [tidy, Bool.and_eq_true] at isTidy
      have later := inductionHypothesis _ isTidy.2
      have fits := isTidy.1
      have content : (outlook rest).operandNext = true → (outlook rest).hasContent = true :=
        fun next => (coherent_outlook rest).content_of_inClause
          ((coherent_outlook rest).inClause_of_next next)
      cases role <;>
        simp_all [outlook, Outlook.past, Outlook.fromOperand, begins, beginsRole, fitsRole]
  | group inner rest innerHypothesis restHypothesis =>
      rw [tidy, Bool.and_eq_true, Bool.and_eq_true, decide_eq_true_eq] at isTidy
      have content := (innerHypothesis false isTidy.1.2).2 rfl isTidy.1.1
      rw [outlook_group_of_content rest content]
      exact ⟨fun _ => rfl, fun _ _ => rfl⟩

/-- A level with an operand next begins with a predicate when it is melted. -/
theorem begins_melted (phrase : Level Word) (operandBefore : Bool)
    (next : (outlook (roles phrase)).operandNext = true) :
    begins (roles (melted operandBefore phrase)) = true := by
  induction phrase generalizing operandBefore with
  | done => simp [roles, outlook, Outlook.nothing] at next
  | item word rest inductionHypothesis =>
      rw [roles, outlook] at next
      cases role : word.role with
      | operand =>
          rw [melted_item_of_stays (by rw [role, stays]), roles, begins, role, beginsRole]
          rfl
      | dead =>
          rw [role, Outlook.past] at next
          rw [melted_item_of_gone (by rw [role, stays])]
          exact inductionHypothesis _ next
      | negation =>
          rw [role, Outlook.past] at next
          rw [melted_item_of_stays (by rw [role, stays, next]), roles, begins, role, beginsRole]
          rfl
      | connective | lead | keyword =>
          rw [role, Outlook.past] at next
          cases next
  | group inner rest _ restHypothesis =>
      rw [roles] at next
      cases content : (outlook (roles inner)).hasContent with
      | true =>
          rw [melted_group_of_content operandBefore rest content, roles, begins]
      | false =>
          rw [outlook_group_of_noContent (roles rest) content] at next
          rw [melted_group_of_noContent operandBefore rest content]
          exact restHypothesis operandBefore next

/-- A clause with an operand begins with a predicate when it is melted. -/
theorem begins_melted_clause (phrase : Level Word)
    (inClause : (outlook (roles phrase)).operandInClause = true) :
    begins (roles (melted false phrase)) = true := by
  induction phrase with
  | done => simp [roles, outlook, Outlook.nothing] at inClause
  | item word rest inductionHypothesis =>
      rw [roles, outlook] at inClause
      cases role : word.role with
      | operand =>
          rw [melted_item_of_stays (by rw [role, stays]), roles, begins, role, beginsRole]
          rfl
      | dead =>
          rw [role, Outlook.past] at inClause
          rw [melted_item_of_gone (by rw [role, stays]), role]
          exact inductionHypothesis inClause
      | negation =>
          rw [role, Outlook.past] at inClause
          cases next : (outlook (roles rest)).operandNext with
          | true =>
              rw [melted_item_of_stays (by rw [role, stays, next]), roles, begins, role, beginsRole]
              rfl
          | false =>
              rw [melted_item_of_gone (by rw [role, stays, next]), role]
              exact inductionHypothesis inClause
      | connective =>
          rw [role, Outlook.past] at inClause
          rw [melted_item_of_gone (by rw [role, stays, Bool.false_and]), role]
          exact inductionHypothesis inClause
      | lead | keyword =>
          rw [role, Outlook.past] at inClause
          cases inClause
  | group inner rest _ restHypothesis =>
      rw [roles] at inClause
      cases content : (outlook (roles inner)).hasContent with
      | true => rw [melted_group_of_content false rest content, roles, begins]
      | false =>
          rw [outlook_group_of_noContent (roles rest) content] at inClause
          rw [melted_group_of_noContent false rest content]
          exact restHypothesis inClause

/-- A level with content is not empty when it is melted. -/
theorem roles_melted_ne_done (phrase : Level Word) (operandBefore : Bool)
    (content : (outlook (roles phrase)).hasContent = true) :
    roles (melted operandBefore phrase) ≠ .done := by
  induction phrase generalizing operandBefore with
  | done => simp [roles, outlook, Outlook.nothing] at content
  | item word rest inductionHypothesis =>
      cases kept : stays operandBefore (outlook (roles rest)) word.role with
      | true =>
          rw [melted_item_of_stays kept, roles]
          intro same
          cases same
      | false =>
          rw [melted_item_of_gone kept]
          apply inductionHypothesis
          rw [roles, outlook] at content
          cases role : word.role with
          | operand | keyword =>
              rw [role] at kept
              cases kept
          | dead | connective | negation | lead =>
              rw [role] at content
              exact content
  | group inner rest _ restHypothesis =>
      cases within : (outlook (roles inner)).hasContent with
      | true =>
          rw [melted_group_of_content operandBefore rest within, roles]
          intro same
          cases same
      | false =>
          rw [roles, outlook_group_of_noContent (roles rest) within] at content
          rw [melted_group_of_noContent operandBefore rest within]
          exact restHypothesis operandBefore content

/-- A melted phrase is tidy. Where an operand precedes but no predicate ends, an operator was kept
just before, and it has its operand next. -/
theorem tidy_melted (phrase : Level Word) (operandBefore ended : Bool)
    (reason : operandBefore = true → ended = true ∨ (outlook (roles phrase)).operandNext = true) :
    tidy ended (roles (melted operandBefore phrase)) = true := by
  induction phrase generalizing operandBefore ended with
  | done => rfl
  | item word rest inductionHypothesis =>
      rw [roles, outlook] at reason
      cases kept : stays operandBefore (outlook (roles rest)) word.role with
      | true =>
          rw [melted_item_of_stays kept, roles, tidy, Bool.and_eq_true]
          cases role : word.role with
          | operand => exact ⟨rfl, inductionHypothesis _ _ fun _ => .inl rfl⟩
          | dead =>
              rw [role] at kept
              cases kept
          | connective =>
              rw [role, stays, Bool.and_eq_true] at kept
              have wasEnded : ended = true := by
                simpa [role, Outlook.past] using reason kept.1
              rw [fitsRole, wasEnded, Bool.true_and]
              exact ⟨begins_melted rest _ kept.2, inductionHypothesis _ _ fun _ => .inr kept.2⟩
          | negation =>
              rw [role, stays] at kept
              exact ⟨begins_melted rest _ kept, inductionHypothesis _ _ fun _ => .inr kept⟩
          | lead =>
              rw [role, stays] at kept
              refine ⟨begins_melted_clause rest kept, inductionHypothesis _ _ ?_⟩
              intro before
              cases before
          | keyword =>
              refine ⟨rfl, inductionHypothesis _ _ ?_⟩
              intro before
              cases before
      | false =>
          rw [melted_item_of_gone kept]
          apply inductionHypothesis
          cases role : word.role with
          | operand | keyword =>
              rw [role] at kept
              cases kept
          | dead | negation =>
              rw [role] at reason
              exact reason
          | connective =>
              intro before
              have wasEnded : ended = true := by
                simpa [role, Outlook.past] using reason before
              exact .inl wasEnded
          | lead =>
              intro before
              cases before
  | group inner rest innerHypothesis restHypothesis =>
      cases content : (outlook (roles inner)).hasContent with
      | true =>
          have within := innerHypothesis false false (by simp)
          have later := restHypothesis true true (by simp)
          have notEmpty := roles_melted_ne_done inner false content
          rw [melted_group_of_content operandBefore rest content, roles, tidy, within, later,
            decide_eq_true notEmpty]
          rfl
      | false =>
          rw [roles, outlook_group_of_noContent (roles rest) content] at reason
          rw [melted_group_of_noContent operandBefore rest content]
          exact restHypothesis operandBefore ended reason

/-- A tidy phrase stays as it is when it is melted. -/
theorem melted_of_tidy (phrase : Level Word) (operandBefore ended : Bool)
    (isTidy : tidy ended (roles phrase) = true) (known : ended = true → operandBefore = true) :
    melted operandBefore phrase = phrase := by
  induction phrase generalizing operandBefore ended with
  | done => rfl
  | item word rest inductionHypothesis =>
      rw [roles, tidy, Bool.and_eq_true] at isTidy
      obtain ⟨fits, tidyRest⟩ := isTidy
      have next := (outlook_of_tidy (roles rest) _ tidyRest).1
      have kept : stays operandBefore (outlook (roles rest)) word.role = true := by
        cases role : word.role with
        | operand | keyword => rfl
        | dead =>
            rw [role] at fits
            cases fits
        | connective =>
            rw [role, fitsRole, Bool.and_eq_true] at fits
            rw [stays, known fits.1, next fits.2, Bool.and_self]
        | negation =>
            rw [role, fitsRole] at fits
            exact next fits
        | lead =>
            rw [role, fitsRole] at fits
            exact (coherent_outlook (roles rest)).inClause_of_next (next fits)
      rw [melted_item_of_stays kept, inductionHypothesis _ _ tidyRest]
      cases role : word.role <;> simp [operandAfter]
  | group inner rest innerHypothesis restHypothesis =>
      rw [roles, tidy, Bool.and_eq_true, Bool.and_eq_true, decide_eq_true_eq] at isTidy
      obtain ⟨⟨notEmpty, tidyInner⟩, tidyRest⟩ := isTidy
      have content := (outlook_of_tidy (roles inner) false tidyInner).2 rfl notEmpty
      rw [melted_group_of_content operandBefore rest content,
        innerHypothesis false false tidyInner (fun ended => ended),
        restHypothesis true true tidyRest (fun ended => ended)]

/-- The tokens of a phrase are well formed exactly when its level is tidy. -/
theorem wellFormed_spelled_iff (phrase : Level Word) :
    WellFormed (spelled phrase) ↔ tidy false (roles phrase) = true := by
  have fit := fitting_spelled phrase none none rfl
  constructor
  · intro wellFormed
    rw [← Option.any_none, ← fit]
    exact (fitting_iff_forall _).mpr wellFormed.fits
  · intro isTidy
    rw [← Option.any_none, ← fit] at isTidy
    exact ⟨balanced_spelled phrase, (fitting_iff_forall _).mp isTidy⟩

theorem wellFormed_of_melt {tokens kept : List Token} (result : melt tokens = .ok kept) :
    WellFormed kept := by
  obtain ⟨phrase, rfl⟩ := exists_phrase (balanced_of_melt result)
  rw [melt_spelled] at result
  cases result
  exact (wellFormed_spelled_iff _).mpr (tidy_melted phrase false false nofun)

/-- Melting leaves no dead token. -/
theorem alive_of_melt {tokens kept : List Token} (result : melt tokens = .ok kept) :
    ∀ token ∈ kept, token.isDead = false := by
  intro token member
  obtain ⟨before, after, split⟩ := List.append_of_mem member
  have fitsThere := (wellFormed_of_melt result).fits before token after split
  cases token with
  | expression body => simpa [Token.fits] using fitsThere
  | columnExpression columnName body => simpa [Token.fits] using fitsThere
  | omitted => cases fitsThere
  | _ => rfl

theorem melt_of_wellFormed {tokens : List Token} (wellFormed : WellFormed tokens) :
    melt tokens = .ok tokens := by
  obtain ⟨phrase, rfl⟩ := exists_phrase wellFormed.balanced
  have isTidy := (wellFormed_spelled_iff phrase).mp wellFormed
  rw [melt_spelled, melted_of_tidy phrase false false isTidy nofun]

/-- Melting gives a well-formed statement, keeps a well-formed one as it is, and so changes nothing
more when it is repeated. -/
theorem melt_wellFormed (tokens : List Token) :
    (∀ kept, melt tokens = .ok kept → WellFormed kept) ∧
      (WellFormed tokens → melt tokens = .ok tokens) ∧
      (melt tokens >>= melt) = melt tokens := by
  refine ⟨fun kept => wellFormed_of_melt, melt_of_wellFormed, ?_⟩
  cases result : melt tokens with
  | error fault => rfl
  | ok kept => exact melt_of_wellFormed (wellFormed_of_melt result)

/-- Without its dead operands a negated group is well formed, and melting it once more changes
nothing. -/
theorem wellFormed_condition_of_negated_group :
    WellFormed [.keyword .condition, .operator .negation, .bracket .opening, .text "a",
        .bracket .closing] ∧
      melt [.keyword .condition, .operator .negation, .bracket .opening, .text "a",
        .bracket .closing] =
        .ok [.keyword .condition, .operator .negation, .bracket .opening, .text "a",
          .bracket .closing] := by
  have kept := (melt_wellFormed
    [.keyword .condition, .operator .negation, .bracket .opening, .omitted,
      .operator .disjunction, .text "a", .bracket .closing, .operator .conjunction,
      .bracket .opening, .omitted, .bracket .closing]).1 _ rfl
  exact ⟨kept, (melt_wellFormed _).2.1 kept⟩

end Melt

end SqlTemplate
