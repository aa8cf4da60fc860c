import SqlTemplate.Proofs.Melt.Phrase

/-!
This file sorts tokens by kind and says when a level has content. Melting never removes an operand.
-/

namespace SqlTemplate

namespace Token

/-- An operand is a text, a column, a table, or an expression that is not absent. -/
def isOperand : Token → Bool
  | .text _ | .column _ | .table _ => true
  | .expression body | .columnExpression _ body => !body.isAbsent
  | .keyword _ | .operator _ | .bracket _ | .omitted => false

/-- A plain keyword leads no predicate. -/
def isPlainKeyword : Token → Bool
  | .keyword word => !word.leadsPredicate
  | _ => false

end Token

namespace Melt

open Nesting

/-- What the role of a word says about its token. -/
structure Word.Kinds (word : Word) : Prop where
  operand : word.token.isOperand = true ↔ word.role = .operand
  dead : word.token.isDead = true ↔ word.role = .dead
  negation : word.token.isNegation = true ↔ word.role = .negation
  plainKeyword : word.token.isPlainKeyword = true ↔ word.role = .keyword
  keyword : word.token.isKeyword = false ↔ word.role ≠ .keyword ∧ word.role ≠ .lead

/-- The role of a word says of which kind its token is. -/
theorem Word.kinds (word : Word) : word.Kinds := by
  obtain ⟨token, notBracket⟩ := word
  cases token with
  | bracket half => cases notBracket
  | keyword name =>
      cases leads : name.leadsPredicate <;>
        constructor <;>
        simp [Word.role, mark, keywordRole, Token.isOperand, Token.isDead, Token.isNegation,
          Token.isPlainKeyword, Token.isKeyword, leads]
  | operator connective =>
      cases connective <;>
        constructor <;>
        simp [Word.role, mark, operatorRole, Operator.isBinary, Token.isOperand, Token.isDead,
          Token.isNegation, Token.isPlainKeyword, Token.isKeyword]
  | expression body =>
      cases absent : body.isAbsent <;>
        constructor <;>
        simp [Word.role, mark, expressionRole, Token.isOperand, Token.isDead, Token.isNegation,
          Token.isPlainKeyword, Token.isKeyword, absent]
  | columnExpression columnName body =>
      cases absent : body.isAbsent <;>
        constructor <;>
        simp [Word.role, mark, expressionRole, Token.isOperand, Token.isDead, Token.isNegation,
          Token.isPlainKeyword, Token.isKeyword, absent]
  | _ =>
      constructor <;>
        simp [Word.role, mark, Token.isOperand, Token.isDead, Token.isNegation,
          Token.isPlainKeyword, Token.isKeyword]

/-- An operand is a word. -/
theorem exists_word_of_isOperand {token : Token} (operand : token.isOperand = true) :
    ∃ word : Word, word.token = token ∧ word.role = .operand := by
  have notBracket : token.isBracket = false := by
    cases token <;> first | rfl | cases operand
  exact ⟨⟨token, notBracket⟩, rfl, (Word.kinds ⟨token, notBracket⟩).operand.mp operand⟩

/-- There is an operand or a plain keyword among the tokens, in brackets or not. -/
def HasContent (tokens : List Token) : Prop :=
  ∃ token ∈ tokens, token.isOperand = true ∨ token.isPlainKeyword = true

theorem hasContent_cons (token : Token) (rest : List Token) :
    HasContent (token :: rest) ↔
      (token.isOperand = true ∨ token.isPlainKeyword = true) ∨ HasContent rest := by
  simp [HasContent]

theorem hasContent_append (first second : List Token) :
    HasContent (first ++ second) ↔ HasContent first ∨ HasContent second := by
  simp only [HasContent, List.mem_append, or_and_right, exists_or]

theorem hasContent_bracketed (inner : List Token) :
    HasContent (Token.bracketed inner) ↔ HasContent inner := by
  simp [HasContent, Token.bracketed, Token.isOperand, Token.isPlainKeyword]

/-- The outlook sees the content of a level. -/
theorem hasContent_outlook_iff (phrase : Level Word) :
    (outlook (roles phrase)).hasContent = true ↔ HasContent (spelled phrase) := by
  induction phrase with
  | done => simp [roles, outlook, Outlook.nothing, spelled, HasContent]
  | item word rest inductionHypothesis =>
      have kinds := word.kinds
      rw [spelled, hasContent_cons, kinds.operand, kinds.plainKeyword, ← inductionHypothesis,
        roles, outlook]
      cases word.role <;> simp [Outlook.past, Outlook.fromOperand]
  | group inner rest innerHypothesis restHypothesis =>
      rw [spelled, hasContent_append, hasContent_bracketed, ← innerHypothesis, ← restHypothesis,
        roles, outlook]
      cases content : (outlook (roles inner)).hasContent <;>
        simp [Outlook.pastGroup, content, Outlook.fromOperand]

/-- Melting keeps the operands of a phrase, in their order. -/
theorem filter_isOperand_melted (phrase : Level Word) (operandBefore : Bool) :
    (spelled (melted operandBefore phrase)).filter Token.isOperand =
      (spelled phrase).filter Token.isOperand := by
  induction phrase generalizing operandBefore with
  | done => rfl
  | item word rest inductionHypothesis =>
      cases kept : stays operandBefore (outlook (roles rest)) word.role with
      | true =>
          rw [melted_item_of_stays kept, spelled, spelled, List.filter_cons, List.filter_cons,
            inductionHypothesis]
      | false =>
          have notOperand : ¬ word.token.isOperand = true := by
            rw [word.kinds.operand]
            intro role
            rw [role] at kept
            cases kept
          rw [melted_item_of_gone kept, spelled, List.filter_cons_of_neg notOperand,
            inductionHypothesis]
  | group inner rest innerHypothesis restHypothesis =>
      cases content : (outlook (roles inner)).hasContent with
      | true =>
          rw [melted_group_of_content operandBefore rest content]
          simp only [spelled, Token.bracketed, List.filter_append, List.filter_cons,
            innerHypothesis, restHypothesis]
      | false =>
          have noOperand : (spelled inner).filter Token.isOperand = [] := by
            rw [List.filter_eq_nil_iff]
            intro token member operand
            have hasContent : HasContent (spelled inner) := ⟨token, member, .inl operand⟩
            rw [← hasContent_outlook_iff, content] at hasContent
            cases hasContent
          rw [melted_group_of_noContent operandBefore rest content, restHypothesis]
          simp [spelled, Token.bracketed, noOperand, Token.isOperand]

/-- Melting keeps the operands of a statement, in their order. -/
theorem filter_isOperand_melt {tokens kept : List Token} (result : melt tokens = .ok kept) :
    kept.filter Token.isOperand = tokens.filter Token.isOperand := by
  obtain ⟨phrase, rfl⟩ := exists_phrase (balanced_of_melt result)
  rw [melt_spelled] at result
  cases result
  exact filter_isOperand_melted phrase false

end Melt

end SqlTemplate
