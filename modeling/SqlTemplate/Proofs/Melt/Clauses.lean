import Mathlib.Data.List.Forall2
import SqlTemplate.Proofs.Melt.Item

/-!
This file cuts a statement in front of its keywords. A keyword hides what follows it from the operators before
it, and behind it no operand is remembered, so that each clause melts as if it stood alone.
-/

namespace SqlTemplate.Melt

open Nesting

/-- Two outlooks show the same operands. They may still differ in the content of the level, which counts
only for the brackets around it. -/
structure Outlook.Shows (outlook other : Outlook) : Prop where
  operandNext : outlook.operandNext = other.operandNext
  operandInClause : outlook.operandInClause = other.operandInClause

/-- Behind any item the outlooks still show the same operands. -/
theorem Outlook.Shows.past {outlook other : Outlook} (shows : outlook.Shows other) (role : Role) :
    (outlook.past role).Shows (other.past role) := by
  obtain ⟨next, inClause⟩ := shows
  cases role with
  | operand | lead | keyword => exact ⟨rfl, rfl⟩
  | dead | negation => exact ⟨next, inClause⟩
  | connective => exact ⟨rfl, inClause⟩

/-- Behind any group the outlooks still show the same operands. -/
theorem Outlook.Shows.pastGroup {outlook other : Outlook} (shows : outlook.Shows other)
    (inner : Outlook) : (outlook.pastGroup inner).Shows (other.pastGroup inner) := by
  rw [Outlook.pastGroup, Outlook.pastGroup]
  split
  · exact ⟨rfl, rfl⟩
  · exact shows

/-- What stays depends only on the operands that the outlook shows. -/
theorem Outlook.Shows.stays_eq {outlook other : Outlook} (shows : outlook.Shows other)
    (operandBefore : Bool) (role : Role) :
    stays operandBefore outlook role = stays operandBefore other role := by
  cases role <;> simp only [stays, shows.operandNext, shows.operandInClause]

/-- A level shows the same operands as before when it goes on with what shows none. -/
theorem shows_outlook_append (level : Level Role) {next : Level Role}
    (hidden : (outlook next).Shows .nothing) :
    (outlook (level.append next)).Shows (outlook level) := by
  induction level with
  | done => exact hidden
  | item role rest inductionHypothesis => exact inductionHypothesis.past role
  | group inner rest _ restHypothesis => exact restHypothesis.pastGroup (outlook inner)

/-- A phrase melts on its own in front of another that shows it no operand and does not ask for one
before itself. -/
theorem melted_append (phrase : Level Word) {next : Level Word}
    (hidden : (outlook (roles next)).Shows .nothing)
    (forgets : ∀ operandBefore, melted operandBefore next = melted false next)
    (operandBefore : Bool) :
    melted operandBefore (phrase.append next) =
      (melted operandBefore phrase).append (melted false next) := by
  induction phrase generalizing operandBefore with
  -- At the seam an operand of the phrase is still remembered, and nothing behind the seam asks for it.
  | done => exact forgets operandBefore
  | item word rest inductionHypothesis =>
      have shows := shows_outlook_append (roles rest) hidden
      rw [Level.append, melted, melted, roles_append, shows.stays_eq, inductionHypothesis]
      split <;> rfl
  | group inner rest _ restHypothesis =>
      rw [Level.append, melted, melted, restHypothesis, restHypothesis]
      split <;> rfl

section Keywords

variable {word : Word} (isKeyword : word.role = .keyword ∨ word.role = .lead) (rest : Level Word)

include isKeyword

/-- A keyword hides the operands behind it. -/
theorem shows_nothing_keyword : (outlook (roles (.item word rest))).Shows .nothing := by
  rw [roles, outlook]
  rcases isKeyword with role | role <;> rw [role] <;> exact ⟨rfl, rfl⟩

/-- A keyword and what stands behind it do not ask for an operand before the keyword. -/
theorem melted_keyword (operandBefore : Bool) :
    melted operandBefore (.item word rest) = melted false (.item word rest) := by
  rw [melted, melted]
  rcases isKeyword with role | role <;> rw [role] <;> rfl

end Keywords

/-- The word of a keyword. -/
def keywordWord (keyword : Keyword) : Word := ⟨.keyword keyword, rfl⟩

theorem role_keywordWord (keyword : Keyword) :
    (keywordWord keyword).role = if keyword.leadsPredicate then .lead else .keyword := rfl

/-- In front of a keyword a statement is cut in two that melt apart. -/
theorem melt_append_keyword {before after : List Token} (beforeBalanced : Balanced before)
    (afterBalanced : Balanced after) (keyword : Keyword) :
    ∃ earlier clause, melt before = .ok earlier ∧ melt (.keyword keyword :: after) = .ok clause ∧
      melt (before ++ .keyword keyword :: after) = .ok (earlier ++ clause) := by
  obtain ⟨phrase, rfl⟩ := exists_phrase beforeBalanced
  obtain ⟨rest, rfl⟩ := exists_phrase afterBalanced
  have isKeyword : (keywordWord keyword).role = .keyword ∨ (keywordWord keyword).role = .lead := by
    rw [role_keywordWord]
    split
    · exact .inr rfl
    · exact .inl rfl
  have whole := melt_spelled (phrase.append (.item (keywordWord keyword) rest))
  rw [melted_append phrase (shows_nothing_keyword isKeyword rest) (melted_keyword isKeyword rest),
    spelled_append, spelled_append] at whole
  exact ⟨_, _, melt_spelled phrase, melt_spelled (.item (keywordWord keyword) rest), whole⟩

/-- A keyword that leads no predicate stays in front of its clause. -/
theorem melt_plainKeyword {after later : List Token} (result : melt after = .ok later)
    {keyword : Keyword} (plain : keyword.leadsPredicate = false) :
    melt (.keyword keyword :: after) = .ok (.keyword keyword :: later) := by
  obtain ⟨rest, rfl⟩ := exists_phrase (balanced_of_melt result)
  rw [melt_spelled] at result
  cases result
  have role : (keywordWord keyword).role = .keyword := by
    rw [role_keywordWord, if_neg (Bool.eq_false_iff.mp plain)]
  have kept : stays false (outlook (roles rest)) (keywordWord keyword).role = true := by
    rw [role, stays]
  have whole := melt_spelled (.item (keywordWord keyword) rest)
  rw [melted_item_of_stays kept, role, operandAfter] at whole
  exact whole

/-- The tokens of clauses, each of which is a keyword and what stands behind it. -/
def clauseTokens (clauses : List (Keyword × List Token)) : List Token :=
  clauses.flatMap fun clause => .keyword clause.1 :: clause.2

/-- Of a whole statement is left what is left of its clauses. -/
theorem melt_clauseTokens (clauses : List (Keyword × List Token)) {before : List Token}
    (beforeBalanced : Balanced before) (balanced : ∀ clause ∈ clauses, Balanced clause.2) :
    ∃ earlier left, melt before = .ok earlier ∧
      List.Forall₂ (fun clause kept => melt (.keyword clause.1 :: clause.2) = .ok kept)
        clauses left ∧
      melt (before ++ clauseTokens clauses) = .ok (earlier ++ left.flatten) := by
  induction clauses generalizing before with
  | nil =>
      obtain ⟨earlier, result⟩ := exists_melt beforeBalanced
      exact ⟨earlier, [], result, .nil, by simpa [clauseTokens] using result⟩
  -- The first clause joins what stands before the others.
  | cons clause rest inductionHypothesis =>
      obtain ⟨clauseBalanced, restBalanced⟩ := List.forall_mem_cons.mp balanced
      obtain ⟨earlier, kept, beforeMelts, clauseMelts, bothMelt⟩ :=
        melt_append_keyword beforeBalanced clauseBalanced clause.1
      have together : Balanced (before ++ .keyword clause.1 :: clause.2) :=
        balanced_append beforeBalanced (.word rfl clauseBalanced)
      obtain ⟨both, left, bothAgain, restMelts, whole⟩ := inductionHypothesis together restBalanced
      rw [bothMelt, Except.ok.injEq] at bothAgain
      subst bothAgain
      exact ⟨earlier, kept :: left, beforeMelts, .cons clauseMelts restMelts,
        by simpa [clauseTokens] using whole⟩

/-- The clauses of a statement melt independently. A keyword that leads no predicate stays between what is left
before it and what is left behind it; one that leads a predicate melts with what stands behind it, as if
nothing stood before. So of any number of clauses is left what is left of each one alone. -/
theorem melt_of_clauses {before after : List Token} (beforeBalanced : Balanced before)
    (afterBalanced : Balanced after) :
    ∃ earlier later, melt before = .ok earlier ∧ melt after = .ok later ∧
      (∀ keyword : Keyword, keyword.leadsPredicate = false →
        melt (before ++ .keyword keyword :: after) = .ok (earlier ++ .keyword keyword :: later)) ∧
      (∀ lead : Keyword, lead.leadsPredicate = true →
        ∃ clause, melt (.keyword lead :: after) = .ok clause ∧
          melt (before ++ .keyword lead :: after) = .ok (earlier ++ clause)) ∧
      ∀ clauses : List (Keyword × List Token), (∀ clause ∈ clauses, Balanced clause.2) →
        ∃ left, List.Forall₂ (fun clause kept => melt (.keyword clause.1 :: clause.2) = .ok kept)
            clauses left ∧
          melt (before ++ clauseTokens clauses) = .ok (earlier ++ left.flatten) := by
  obtain ⟨earlier, beforeMelts⟩ := exists_melt beforeBalanced
  obtain ⟨later, afterMelts⟩ := exists_melt afterBalanced
  have cut (keyword : Keyword) : ∃ clause, melt (.keyword keyword :: after) = .ok clause ∧
      melt (before ++ .keyword keyword :: after) = .ok (earlier ++ clause) := by
    obtain ⟨other, clause, again, clauseMelts, whole⟩ :=
      melt_append_keyword beforeBalanced afterBalanced keyword
    rw [beforeMelts, Except.ok.injEq] at again
    exact ⟨clause, clauseMelts, again ▸ whole⟩
  refine ⟨earlier, later, beforeMelts, afterMelts, ?_, fun lead _ => cut lead, ?_⟩
  · intro keyword plain
    obtain ⟨clause, clauseMelts, whole⟩ := cut keyword
    rw [melt_plainKeyword afterMelts plain, Except.ok.injEq] at clauseMelts
    rw [whole, ← clauseMelts]
  · intro clauses balanced
    obtain ⟨other, left, again, each, whole⟩ := melt_clauseTokens clauses beforeBalanced balanced
    rw [beforeMelts, Except.ok.injEq] at again
    exact ⟨left, each, again ▸ whole⟩

/-- A condition that ends with a connective without its right operand. -/
def openCondition : List Token :=
  [.keyword .condition, .text "a", .operator .conjunction, .omitted]

/-- What begins with a connective without its left operand. -/
def openPredicate : List Token :=
  [.operator .disjunction, .operator .negation, .bracket .opening, .omitted, .bracket .closing,
    .text "b"]

/-- Neither connective finds an operand on the other side of the keyword, and the negation stays with the
operand of its own clause. -/
theorem melt_of_openClauses :
    Balanced openCondition ∧ Balanced openPredicate ∧
      melt (openCondition ++ .keyword .orderBy :: openPredicate) =
        .ok [.keyword .condition, .text "a", .keyword .orderBy, .operator .negation, .text "b"] ∧
      melt (openCondition ++ .keyword .having :: openPredicate) =
        .ok [.keyword .condition, .text "a", .keyword .having, .operator .negation, .text "b"] := by
  have conditionBalanced : Balanced openCondition :=
    (balanced_iff_imbalance?_eq_none _).mpr (by decide)
  have predicateBalanced : Balanced openPredicate :=
    (balanced_iff_imbalance?_eq_none _).mpr (by decide)
  obtain ⟨earlier, later, before, after, plain, leading, -⟩ :=
    melt_of_clauses conditionBalanced predicateBalanced
  obtain ⟨clause, own, whole⟩ := leading .having rfl
  have ordered := plain .orderBy rfl
  cases before
  cases after
  cases own
  exact ⟨conditionBalanced, predicateBalanced, ordered, whole⟩

end SqlTemplate.Melt
