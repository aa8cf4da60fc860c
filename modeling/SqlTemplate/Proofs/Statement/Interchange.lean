import Mathlib.Data.List.Forall2
import SqlTemplate.Proofs.Melt.Phrase
import SqlTemplate.Proofs.Outcome
import SqlTemplate.Statement.Basic

/-!
This file proves that a text and the expression of the same template are interchangeable. A statement melts, pairs its
placeholders and is written in the same way whichever of the two stands in a place.
-/

namespace SqlTemplate

namespace Token

/-- One token may stand for another: they are the same, or one is a text and the other one the expression of the same
template, which is not absent and has no values. -/
inductive Interchangeable : Token → Token → Prop
  | same (token : Token) : Interchangeable token token
  | expressed (content : String) :
      Interchangeable (.text content)
        (.expression { template := content, isAbsent := false, values := [] })
  | spelled (content : String) :
      Interchangeable (.expression { template := content, isAbsent := false, values := [] })
        (.text content)

/-- A text as an expression. Every other token stays. -/
def expressed : Token → Token
  | .text content => .ofTemplate content
  | token => token

theorem interchangeable_iff (first second : Token) :
    first.Interchangeable second ↔ first.expressed = second.expressed := by
  constructor
  · intro interchangeable
    cases interchangeable <;> rfl
  · intro same
    -- Of two different shapes one is a text, or they are not the same as expressions.
    cases first <;> cases second <;> cases same <;> constructor

/-- Tokens may stand for others exactly when they are the same as expressions. -/
theorem forall₂_interchangeable_iff (first second : List Token) :
    List.Forall₂ Interchangeable first second ↔ first.map expressed = second.map expressed := by
  have relation : Interchangeable = fun one other => one.expressed = other.expressed := by
    funext one other
    exact propext (interchangeable_iff one other)
  rw [relation, ← List.forall₂_eq_eq_eq, List.forall₂_map_left_iff, List.forall₂_map_right_iff]

variable (token : Token)

theorem mark_expressed : Melt.mark token.expressed = Melt.mark token := by
  cases token <;> rfl

theorem expressed_eq_omitted_iff : token.expressed = .omitted ↔ token = .omitted := by
  cases token <;> simp [expressed, ofTemplate]

theorem isDead_expressed : token.expressed.isDead = token.isDead := by
  cases token <;> rfl

theorem isBracket_expressed : token.expressed.isBracket = token.isBracket := by
  cases token <;> rfl

theorem isComma_expressed : token.expressed.isComma = token.isComma := by
  cases token <;> rfl

theorem boundValues_expressed : token.expressed.boundValues = token.boundValues := by
  cases token <;> rfl

theorem placeholders_expressed : token.expressed.placeholders = token.placeholders := by
  cases token <;> rfl

theorem column?_expressed : token.expressed.column? = token.column? := by
  cases token <;> rfl

end Token

open Token

namespace Statement

/-- The placeholders of texts and of expressions are paired in the same way. -/
theorem collectFrom_expressed (position : Nat) (supply : List Parameter) (collected : Parameters)
    (tokens : List Token) :
    collectFrom position supply collected (tokens.map expressed) =
      collectFrom position supply collected tokens := by
  induction tokens generalizing position supply collected with
  | nil => rfl
  | cons token rest inductionHypothesis =>
      have bound : boundParameters token.expressed = boundParameters token := by
        rw [boundParameters, boundValues_expressed, column?_expressed, boundParameters]
      have supplied : suppliedParameter token.expressed = suppliedParameter token := by
        funext parameter
        rw [suppliedParameter, column?_expressed, suppliedParameter]
      simp only [List.map_cons, collectFrom, isDead_expressed, boundValues_expressed,
        placeholders_expressed, bound, supplied, inductionHypothesis]

theorem writeToken_expressed (context : Context) (parameters : Parameters)
    (numbering : Numbering) (token : Token) :
    writeToken context parameters numbering token.expressed =
      writeToken context parameters numbering token := by
  cases token <;> rfl

theorem render_expressed (context : Context) (tokens : List Token) :
    render context (tokens.map expressed) = render context tokens := by
  rw [render, render, visible_map expressed_eq_omitted_iff]
  simp only [collect, collectFrom_expressed,
    writeFrom_map (fun _ => writeToken_expressed context _ _) isBracket_expressed isComma_expressed]

end Statement

section Interchanged

variable {first second : List Token} (interchanged : List.Forall₂ Interchangeable first second)

include interchanged

/-- The same places stay of both, or both fail with the same fault. -/
theorem Melt.survivors_of_interchanged : survivors first = survivors second := by
  rw [← survivors_map mark_expressed first, (forall₂_interchangeable_iff _ _).mp interchanged,
    survivors_map mark_expressed]

/-- What is left of one may stand for what is left of the other. -/
theorem Melt.melt_of_interchanged :
    (∃ fault, melt first = .error fault ∧ melt second = .error fault) ∨
      ∃ kept others, melt first = .ok kept ∧ melt second = .ok others ∧
        List.Forall₂ Interchangeable kept others := by
  simp only [forall₂_interchangeable_iff] at interchanged ⊢
  rw [← map_eq_map_iff, ← melt_map mark_expressed, ← melt_map mark_expressed, interchanged]

/-- Both are rendered as the same statement, or fail with the same fault. -/
theorem Statement.render_of_interchanged (context : Context) :
    render context first = render context second := by
  rw [← render_expressed, (forall₂_interchangeable_iff _ _).mp interchanged, render_expressed]

end Interchanged

end SqlTemplate
