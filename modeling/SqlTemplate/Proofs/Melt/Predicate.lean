import SqlTemplate.Proofs.Melt.Item

/-!
This file defines predicates as trees of terms and prunes from a tree the terms whose operands are
dead. Melting the tokens of a predicate gives the tokens of the pruned predicate, so that the pass over
the flat list follows the structure of the predicate.
-/

namespace SqlTemplate.Melt

open Nesting

/-- A leaf of a predicate is an operand or a dead token. -/
structure Leaf where
  token : Token
  isLeaf : token.isOperand = true ∨ token.isDead = true

/-- A connective is an operator with two operands. -/
structure Connective where
  operator : Operator
  isBinary : operator.isBinary = true

mutual

/-- A predicate starts with a term, and each later term has a connective before it. -/
inductive Predicate where
  | starting (first : Term) (later : Continuation)

/-- What follows the first term of a predicate. -/
inductive Continuation where
  | ended
  | followed (connective : Connective) (term : Term) (later : Continuation)

/-- A term is a leaf, a pair of brackets with nothing or with a predicate between them, or the
negation of a term. -/
inductive Term where
  | leaf (leaf : Leaf)
  | emptyPair
  | group (inner : Predicate)
  | negated (term : Term)

end

mutual

/-- The tokens of a predicate. -/
def Predicate.tokens : Predicate → List Token
  | .starting first later => first.tokens ++ later.tokens

/-- The tokens of what follows the first term. -/
def Continuation.tokens : Continuation → List Token
  | .ended => []
  | .followed connective term later =>
      .operator connective.operator :: (term.tokens ++ later.tokens)

/-- The tokens of a term. -/
def Term.tokens : Term → List Token
  | .leaf leaf => [leaf.token]
  | .emptyPair => Token.bracketed []
  | .group inner => Token.bracketed inner.tokens
  | .negated term => .operator .negation :: term.tokens

end

/-- The first term that follows gives up its connective. -/
def Continuation.promoted? : Continuation → Option Predicate
  | .ended => none
  | .followed _ term later => some (.starting term later)

mutual

/-- The predicate without its dead terms. The first term that is left has no connective. -/
def Predicate.prune? : Predicate → Option Predicate
  | .starting first later =>
      match first.prune? with
      | some kept => some (.starting kept later.pruned)
      | none => later.pruned.promoted?

/-- Each later term that is left keeps its own connective. -/
def Continuation.pruned : Continuation → Continuation
  | .ended => .ended
  | .followed connective term later =>
      match term.prune? with
      | some kept => .followed connective kept later.pruned
      | none => later.pruned

/-- A term is left when its operand is not dead and its group not empty. -/
def Term.prune? : Term → Option Term
  | .leaf leaf => if leaf.token.isDead then none else some (.leaf leaf)
  | .emptyPair => none
  | .group inner => inner.prune?.map .group
  | .negated term => term.prune?.map .negated

end

/-- The word of a leaf. -/
def Leaf.word (leaf : Leaf) : Word where
  token := leaf.token
  notBracket := by
    obtain ⟨token, isLeaf⟩ := leaf
    cases token <;> first | rfl | simp [Token.isOperand, Token.isDead] at isLeaf

theorem Leaf.role_word (leaf : Leaf) :
    leaf.word.role = if leaf.token.isDead then .dead else .operand := by
  cases dead : leaf.token.isDead with
  | true => exact leaf.word.kinds.dead.mp dead
  | false =>
      have operand : leaf.token.isOperand = true := by simpa [dead] using leaf.isLeaf
      exact leaf.word.kinds.operand.mp operand

/-- The word of a connective. -/
def Connective.word (connective : Connective) : Word := ⟨.operator connective.operator, rfl⟩

theorem Connective.role_word (connective : Connective) : connective.word.role = .connective := by
  obtain ⟨operator, isBinary⟩ := connective
  cases operator <;> first | rfl | cases isBinary

/-- The word of a negation. -/
def negationWord : Word := ⟨.operator .negation, rfl⟩

mutual

/-- The phrase of a predicate. -/
def Predicate.phrase : Predicate → Level Word
  | .starting first later => first.phrase later.phrase

/-- The phrase of what follows the first term. -/
def Continuation.phrase : Continuation → Level Word
  | .ended => .done
  | .followed connective term later => .item connective.word (term.phrase later.phrase)

/-- The phrase of a term in front of the rest of its level. -/
def Term.phrase : Term → Level Word → Level Word
  | .leaf leaf, rest => .item leaf.word rest
  | .emptyPair, rest => .group .done rest
  | .group inner, rest => .group inner.phrase rest
  | .negated term, rest => .item negationWord (term.phrase rest)

end

mutual

/-- The phrase of a predicate has its tokens. -/
theorem Predicate.spelled_phrase (predicate : Predicate) :
    spelled predicate.phrase = predicate.tokens := by
  match predicate with
  | .starting first later =>
      rw [Predicate.phrase, first.spelled_phrase, later.spelled_phrase, Predicate.tokens]

theorem Continuation.spelled_phrase (continuation : Continuation) :
    spelled continuation.phrase = continuation.tokens := by
  match continuation with
  | .ended => rfl
  | .followed connective term later =>
      rw [Continuation.phrase, spelled, term.spelled_phrase, later.spelled_phrase,
        Continuation.tokens, Connective.word]

theorem Term.spelled_phrase (term : Term) (rest : Level Word) :
    spelled (term.phrase rest) = term.tokens ++ spelled rest := by
  match term with
  | .leaf leaf => rfl
  | .emptyPair => rfl
  | .group inner => rw [Term.phrase, spelled, inner.spelled_phrase, Term.tokens]
  | .negated term =>
      rw [Term.phrase, spelled, term.spelled_phrase, Term.tokens, List.cons_append, negationWord]

end

/-- A dead leaf goes and leaves the outlook as it is. -/
theorem melted_leaf (leaf : Leaf) (rest : Level Word) :
    (leaf.token.isDead = false → outlook (roles (.item leaf.word rest)) = .fromOperand ∧
      ∀ operandBefore, melted operandBefore (.item leaf.word rest) =
        .item leaf.word (melted true rest)) ∧
    (leaf.token.isDead = true → outlook (roles (.item leaf.word rest)) = outlook (roles rest) ∧
      ∀ operandBefore, melted operandBefore (.item leaf.word rest) = melted operandBefore rest) := by
  constructor
  · intro alive
    have role : leaf.word.role = .operand := by
      rw [leaf.role_word, alive, if_neg Bool.false_ne_true]
    have leafStays (operandBefore : Bool) :
        stays operandBefore (outlook (roles rest)) leaf.word.role = true := by
      rw [role, stays]
    refine ⟨by rw [roles, outlook, role, Outlook.past], fun operandBefore => ?_⟩
    rw [melted_item_of_stays (leafStays operandBefore), role, operandAfter]
  · intro dead
    have role : leaf.word.role = .dead := by rw [leaf.role_word, if_pos dead]
    have leafGoes (operandBefore : Bool) :
        stays operandBefore (outlook (roles rest)) leaf.word.role = false := by
      rw [role, stays]
    refine ⟨by rw [roles, outlook, role, Outlook.past], fun operandBefore => ?_⟩
    rw [melted_item_of_gone (leafGoes operandBefore), role, operandAfter]

mutual

/-- A predicate has content when something of it is left, and it melts to the pruned predicate. -/
theorem Predicate.melted_phrase (predicate : Predicate) :
    (outlook (roles predicate.phrase)).operandInClause = predicate.prune?.isSome ∧
      (outlook (roles predicate.phrase)).hasContent = predicate.prune?.isSome ∧
      melted false predicate.phrase = (predicate.prune?.map Predicate.phrase).getD .done := by
  match predicate with
  | .starting first later =>
      obtain ⟨laterOutlook, laterMelted, laterStart⟩ := later.melted_phrase
      have step := first.melted_phrase later.phrase (by rw [laterOutlook])
      rw [Predicate.phrase, Predicate.prune?]
      cases pruned : first.prune? with
      | some kept =>
          obtain ⟨firstOutlook, firstMelted⟩ := step.1 kept pruned
          rw [firstOutlook, firstMelted, laterMelted]
          exact ⟨rfl, rfl, rfl⟩
      | none =>
          obtain ⟨firstOutlook, firstMelted⟩ := step.2 pruned
          rw [firstOutlook, firstMelted, laterOutlook, laterStart]
          exact ⟨rfl, rfl, rfl⟩

/-- What follows keeps its connectives behind an operand, and gives up the first one otherwise. -/
theorem Continuation.melted_phrase (continuation : Continuation) :
    outlook (roles continuation.phrase) =
        ⟨false, continuation.pruned.promoted?.isSome, continuation.pruned.promoted?.isSome⟩ ∧
      melted true continuation.phrase = continuation.pruned.phrase ∧
      melted false continuation.phrase =
        (continuation.pruned.promoted?.map Predicate.phrase).getD .done := by
  match continuation with
  | .ended => exact ⟨rfl, rfl, rfl⟩
  | .followed connective term later =>
      obtain ⟨laterOutlook, laterMelted, laterStart⟩ := later.melted_phrase
      have step := term.melted_phrase later.phrase (by rw [laterOutlook])
      have role := connective.role_word
      rw [Continuation.phrase, Continuation.pruned, roles, outlook, role]
      have gone : melted false (.item connective.word (term.phrase later.phrase)) =
          melted false (term.phrase later.phrase) := by
        rw [melted_item_of_gone (by rw [role, stays, Bool.false_and]), role, operandAfter]
      rw [gone]
      cases pruned : term.prune? with
      | some kept =>
          obtain ⟨termOutlook, termMelted⟩ := step.1 kept pruned
          have connectiveStays : stays true (outlook (roles (term.phrase later.phrase)))
              connective.word.role = true := by
            rw [role, stays, termOutlook]
            rfl
          refine ⟨?_, ?_, ?_⟩
          · rw [termOutlook]
            rfl
          · rw [melted_item_of_stays connectiveStays, role, operandAfter, termMelted, laterMelted,
              Continuation.phrase]
          · rw [termMelted, laterMelted]
            rfl
      | none =>
          obtain ⟨termOutlook, termMelted⟩ := step.2 pruned
          have connectiveGoes : stays true (outlook (roles (term.phrase later.phrase)))
              connective.word.role = false := by
            rw [role, stays, termOutlook, laterOutlook]
            rfl
          refine ⟨?_, ?_, ?_⟩
          · rw [termOutlook, laterOutlook]
            rfl
          · rw [melted_item_of_gone connectiveGoes, role, operandAfter, termMelted, laterMelted]
          · rw [termMelted, laterStart]

/-- A term that is left is an operand of its level. Any other term goes with its negations, when no
operand stands right behind it. -/
theorem Term.melted_phrase (term : Term) (rest : Level Word)
    (noOperand : (outlook (roles rest)).operandNext = false) :
    (∀ kept, term.prune? = some kept → outlook (roles (term.phrase rest)) = .fromOperand ∧
      ∀ operandBefore, melted operandBefore (term.phrase rest) =
        kept.phrase (melted true rest)) ∧
    (term.prune? = none → outlook (roles (term.phrase rest)) = outlook (roles rest) ∧
      ∀ operandBefore, melted operandBefore (term.phrase rest) = melted operandBefore rest) := by
  match term with
  | .leaf leaf =>
      cases dead : leaf.token.isDead with
      | true =>
          rw [Term.prune?, if_pos dead]
          exact ⟨nofun, fun _ => (melted_leaf leaf rest).2 dead⟩
      | false =>
          rw [Term.prune?, if_neg (by rw [dead]; exact Bool.false_ne_true)]
          refine ⟨fun kept same => ?_, nofun⟩
          cases same
          exact (melted_leaf leaf rest).1 dead
  | .emptyPair =>
      have sameOutlook : outlook (.group .done (roles rest)) = outlook (roles rest) :=
        outlook_group_of_noContent (roles rest) rfl
      refine ⟨nofun, fun _ => ⟨sameOutlook, fun operandBefore => ?_⟩⟩
      exact melted_group_of_noContent operandBefore rest rfl
  | .group inner =>
      obtain ⟨-, innerContent, innerMelted⟩ := inner.melted_phrase
      rw [Term.prune?, Term.phrase, roles]
      cases pruned : inner.prune? with
      | some kept =>
          rw [pruned] at innerContent innerMelted
          refine ⟨fun whole same => ?_, nofun⟩
          cases same
          refine ⟨outlook_group_of_content (roles rest) innerContent, fun operandBefore => ?_⟩
          rw [melted_group_of_content operandBefore rest innerContent, innerMelted]
          rfl
      | none =>
          rw [pruned] at innerContent
          refine ⟨nofun, fun _ => ⟨outlook_group_of_noContent (roles rest) innerContent, ?_⟩⟩
          exact fun operandBefore => melted_group_of_noContent operandBefore rest innerContent
  | .negated inner =>
      have step := inner.melted_phrase rest noOperand
      have role : negationWord.role = .negation := rfl
      rw [Term.prune?, Term.phrase, roles, outlook, role]
      cases pruned : inner.prune? with
      | some kept =>
          obtain ⟨innerOutlook, innerMelted⟩ := step.1 kept pruned
          have negationStays (operandBefore : Bool) : stays operandBefore
              (outlook (roles (inner.phrase rest))) negationWord.role = true := by
            rw [role, stays, innerOutlook]
            rfl
          refine ⟨fun whole same => ?_, nofun⟩
          cases same
          refine ⟨?_, fun operandBefore => ?_⟩
          · rw [innerOutlook]
            rfl
          · rw [melted_item_of_stays (negationStays operandBefore), innerMelted]
            rfl
      | none =>
          obtain ⟨innerOutlook, innerMelted⟩ := step.2 pruned
          have negationGoes (operandBefore : Bool) : stays operandBefore
              (outlook (roles (inner.phrase rest))) negationWord.role = false := by
            rw [role, stays, innerOutlook, noOperand]
          refine ⟨nofun, fun _ => ⟨?_, fun operandBefore => ?_⟩⟩
          · rw [innerOutlook]
            rfl
          · rw [melted_item_of_gone (negationGoes operandBefore), role, operandAfter, innerMelted]

end

/-- A predicate melts to the pruned predicate. -/
theorem melt_tokens (predicate : Predicate) :
    melt predicate.tokens = .ok ((predicate.prune?.map Predicate.tokens).getD []) := by
  rw [← predicate.spelled_phrase, melt_spelled, predicate.melted_phrase.2.2]
  cases predicate.prune? with
  | none => rfl
  | some kept =>
      rw [Option.map_some, Option.getD_some, kept.spelled_phrase]
      rfl

/-- A lead goes with its predicate when nothing of the predicate is left. -/
theorem melt_lead_tokens (lead : Keyword) (leads : lead.leadsPredicate = true)
    (predicate : Predicate) :
    melt (.keyword lead :: predicate.tokens) =
      .ok ((predicate.prune?.map fun kept => .keyword lead :: kept.tokens).getD []) := by
  let word : Word := ⟨.keyword lead, rfl⟩
  have role : word.role = .lead := by
    simp only [word, Word.role, mark, keywordRole, leads, if_true]
  have tokens : spelled (.item word predicate.phrase) = .keyword lead :: predicate.tokens := by
    rw [spelled, predicate.spelled_phrase]
  obtain ⟨inClause, -, melts⟩ := predicate.melted_phrase
  rw [← tokens, melt_spelled]
  cases pruned : predicate.prune? with
  | none =>
      rw [pruned] at inClause melts
      have leadGoes : stays false (outlook (roles predicate.phrase)) word.role = false := by
        rw [role, stays, inClause]
        rfl
      rw [melted_item_of_gone leadGoes, role, operandAfter, melts]
      rfl
  | some kept =>
      rw [pruned] at inClause melts
      have leadStays : stays false (outlook (roles predicate.phrase)) word.role = true := by
        rw [role, stays, inClause]
        rfl
      rw [melted_item_of_stays leadStays, role, operandAfter, melts, Option.map_some,
        Option.getD_some, spelled, kept.spelled_phrase]
      rfl

/-- Leaves that follow, each behind the connective. -/
def chain (connective : Connective) : List Leaf → Continuation
  | [] => .ended
  | leaf :: rest => .followed connective (.leaf leaf) (chain connective rest)

theorem tokens_chain (connective : Connective) (first : Token) (leaves : List Leaf) :
    Token.separated (.operator connective.operator) (first :: leaves.map Leaf.token) =
      first :: (chain connective leaves).tokens := by
  induction leaves generalizing first with
  | nil => rfl
  | cons leaf rest inductionHypothesis =>
      rw [List.map_cons, Token.separated, inductionHypothesis, chain, Continuation.tokens]
      rfl

theorem pruned_chain (connective : Connective) (leaves : List Leaf) :
    (chain connective leaves).pruned =
      chain connective (leaves.filter fun leaf => !leaf.token.isDead) := by
  induction leaves with
  | nil => rfl
  | cons leaf rest inductionHypothesis =>
      rw [chain, Continuation.pruned, Term.prune?, inductionHypothesis]
      cases dead : leaf.token.isDead <;> simp [dead, chain]

/-- Of operands joined by a connective those that are not dead are left, joined by the same
connective. -/
theorem melt_joined (connective : Connective) (leaves : List Leaf) :
    melt (Clause.joined connective.operator (leaves.map Leaf.token)).spelled =
      .ok (Clause.joined connective.operator
        ((leaves.filter fun leaf => !leaf.token.isDead).map Leaf.token)).spelled := by
  cases leaves with
  | nil => rfl
  | cons first rest =>
      have whole := melt_tokens (.starting (.leaf first) (chain connective rest))
      rw [Predicate.tokens, Term.tokens, List.cons_append, List.nil_append, Predicate.prune?,
        Term.prune?, pruned_chain] at whole
      rw [Clause.spelled, Clause.spelled, List.map_cons, tokens_chain, whole]
      cases dead : first.token.isDead with
      | false =>
          rw [List.filter_cons_of_pos (by rw [dead]; rfl), List.map_cons, tokens_chain]
          rfl
      | true =>
          rw [List.filter_cons_of_neg (by rw [dead]; exact Bool.false_ne_true)]
          cases rest.filter fun leaf => !leaf.token.isDead with
          | nil => rfl
          | cons second later =>
              rw [List.map_cons, tokens_chain]
              rfl

/-- Melting follows the tree of a predicate: it leaves the pruned predicate, behind its lead if there
is one, and of operands joined by one connective those that are not dead. -/
theorem melt_eq_prune :
    (∀ predicate : Predicate,
      melt predicate.tokens = .ok ((predicate.prune?.map Predicate.tokens).getD [])) ∧
    (∀ (lead : Keyword) (predicate : Predicate), lead.leadsPredicate = true →
      melt (.keyword lead :: predicate.tokens) =
        .ok ((predicate.prune?.map fun kept => .keyword lead :: kept.tokens).getD [])) ∧
    ∀ (connective : Connective) (leaves : List Leaf),
      melt (Clause.joined connective.operator (leaves.map Leaf.token)).spelled =
        .ok (Clause.joined connective.operator
          ((leaves.filter fun leaf => !leaf.token.isDead).map Leaf.token)).spelled :=
  ⟨melt_tokens, fun lead predicate leads => melt_lead_tokens lead leads predicate, melt_joined⟩

/-- The negated group keeps its lead, and the operand in it gives up its connective. -/
theorem melt_having_negated_group :
    melt [.keyword .having, .operator .negation, .bracket .opening, .omitted,
        .operator .conjunction, .text "a", .bracket .closing] =
      .ok [.keyword .having, .operator .negation, .bracket .opening, .text "a",
        .bracket .closing] :=
  melt_eq_prune.2.1 .having
    (.starting (.negated (.group (.starting (.leaf ⟨.omitted, .inr rfl⟩)
      (.followed ⟨.conjunction, rfl⟩ (.leaf ⟨.text "a", .inl rfl⟩) .ended)))) .ended) rfl

end SqlTemplate.Melt
