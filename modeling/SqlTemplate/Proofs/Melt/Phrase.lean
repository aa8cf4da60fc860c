import SqlTemplate.Proofs.Melt.ScanExact
import SqlTemplate.Token.Clause

/-!
This file reads a statement with balanced brackets as a phrase, which is a level whose items are
tokens. What melting leaves of a phrase is a phrase again, and it is found by recursion on the phrase.
-/

namespace SqlTemplate

/-- The brackets of the tokens are balanced: each one has its partner. -/
inductive Balanced : List Token → Prop
  | empty : Balanced []
  | word {token : Token} {rest : List Token} (notBracket : token.isBracket = false)
      (balanced : Balanced rest) : Balanced (token :: rest)
  | group {inner rest : List Token} (innerBalanced : Balanced inner) (balanced : Balanced rest) :
      Balanced (Token.bracketed inner ++ rest)

namespace Melt

open Nesting

/-- A word is a token that is no bracket. -/
structure Word where
  token : Token
  notBracket : token.isBracket = false
  deriving DecidableEq

/-- The role of a word. -/
def Word.role (word : Word) : Role :=
  match mark word.token with
  | .item role => role
  | _ => .dead

theorem Word.mark_token (word : Word) : mark word.token = .item word.role := by
  obtain ⟨token, notBracket⟩ := word
  cases token <;> first | rfl | cases notBracket

theorem Word.isOpening_token (word : Word) : word.token.isOpening = false := by
  obtain ⟨token, notBracket⟩ := word
  cases token <;> first | rfl | cases notBracket

theorem Word.isClosing_token (word : Word) : word.token.isClosing = false := by
  obtain ⟨token, notBracket⟩ := word
  cases token <;> first | rfl | cases notBracket

/-- The tokens of a phrase. -/
def spelled : Level Word → List Token
  | .done => []
  | .item word rest => word.token :: spelled rest
  | .group inner rest => Token.bracketed (spelled inner) ++ spelled rest

/-- Only the empty phrase has no tokens. -/
theorem spelled_eq_nil_iff (phrase : Level Word) : spelled phrase = [] ↔ phrase = .done := by
  cases phrase <;> simp [spelled, Token.bracketed]

/-- One phrase continued by another has the tokens of both. -/
theorem spelled_append (phrase next : Level Word) :
    spelled (phrase.append next) = spelled phrase ++ spelled next := by
  induction phrase with
  | done => rfl
  | item word rest inductionHypothesis => simp [Level.append, spelled, inductionHypothesis]
  | group inner rest _ restHypothesis => simp [Level.append, spelled, restHypothesis]

/-- The roles of the words of a phrase. -/
def roles : Level Word → Level Role
  | .done => .done
  | .item word rest => .item word.role (roles rest)
  | .group inner rest => .group (roles inner) (roles rest)

/-- The roles of one phrase are continued by those of the other. -/
theorem roles_append (phrase next : Level Word) :
    roles (phrase.append next) = (roles phrase).append (roles next) := by
  induction phrase with
  | done => rfl
  | item word rest inductionHypothesis => simp [Level.append, roles, inductionHypothesis]
  | group inner rest _ restHypothesis => simp [Level.append, roles, restHypothesis]

/-- The marks of a phrase are those of its tokens. -/
theorem map_mark_spelled (phrase : Level Word) :
    (spelled phrase).map mark = (roles phrase).flatten := by
  induction phrase with
  | done => rfl
  | item word rest inductionHypothesis =>
      rw [spelled, roles, Level.flatten, List.map_cons, word.mark_token, inductionHypothesis]
  | group inner rest innerHypothesis restHypothesis =>
      rw [spelled, Token.bracketed_append, List.map_cons, List.map_append, List.map_cons,
        innerHypothesis, restHypothesis]
      simp [roles, Level.flatten, mark]

/-- The brackets of a phrase are balanced. -/
theorem balanced_spelled (phrase : Level Word) : Balanced (spelled phrase) := by
  induction phrase with
  | done => exact .empty
  | item word rest inductionHypothesis => exact .word word.notBracket inductionHypothesis
  | group inner rest innerHypothesis restHypothesis => exact .group innerHypothesis restHypothesis

/-- Balanced tokens spell a phrase. -/
theorem exists_phrase {tokens : List Token} (balanced : Balanced tokens) :
    ∃ phrase, spelled phrase = tokens := by
  induction balanced with
  | empty => exact ⟨.done, rfl⟩
  | word notBracket _ inductionHypothesis =>
      obtain ⟨rest, spelledRest⟩ := inductionHypothesis
      exact ⟨.item ⟨_, notBracket⟩ rest, by rw [spelled, spelledRest]⟩
  | group _ _ innerHypothesis restHypothesis =>
      obtain ⟨inner, spelledInner⟩ := innerHypothesis
      obtain ⟨rest, spelledRest⟩ := restHypothesis
      exact ⟨.group inner rest, by rw [spelled, spelledInner, spelledRest]⟩

/-- Only an opening bracket is marked as one. -/
theorem mark_eq_opening_iff (token : Token) :
    mark token = .opening ↔ token = .bracket .opening := by
  cases token with
  | bracket half => cases half <;> simp [mark]
  | _ => simp [mark]

/-- Only a closing bracket is marked as one. -/
theorem mark_eq_closing_iff (token : Token) :
    mark token = .closing ↔ token = .bracket .closing := by
  cases token with
  | bracket half => cases half <;> simp [mark]
  | _ => simp [mark]

/-- A token that is marked as an item is no bracket. -/
theorem isBracket_of_mark {token : Token} {role : Role} (item : mark token = .item role) :
    token.isBracket = false := by
  cases token with
  | bracket half => cases half <;> cases item
  | _ => rfl

/-- Tokens are balanced when their marks are those of a level. -/
theorem balanced_of_flatten (level : Level Role) (tokens : List Token)
    (flat : level.flatten = tokens.map mark) : Balanced tokens := by
  induction level generalizing tokens with
  | done =>
      rw [List.map_eq_nil_iff.mp flat.symm]
      exact .empty
  | item role rest inductionHypothesis =>
      obtain ⟨token, later, rfl, item, laterFlat⟩ := List.map_eq_cons_iff.mp flat.symm
      exact .word (isBracket_of_mark item) (inductionHypothesis later laterFlat.symm)
  | group inner rest innerHypothesis restHypothesis =>
      obtain ⟨within, after, rfl, withinFlat, afterFlat⟩ := List.map_eq_append_iff.mp flat.symm
      obtain ⟨opening, innerTokens, rfl, opens, innerFlat⟩ := List.map_eq_cons_iff.mp withinFlat
      obtain ⟨closing, restTokens, rfl, closes, restFlat⟩ := List.map_eq_cons_iff.mp afterFlat
      rw [mark_eq_opening_iff] at opens
      rw [mark_eq_closing_iff] at closes
      have balanced : Balanced (Token.bracketed innerTokens ++ restTokens) :=
        .group (innerHypothesis innerTokens innerFlat.symm)
          (restHypothesis restTokens restFlat.symm)
      simpa [Token.bracketed, opens, closes] using balanced

/-- The brackets are balanced exactly when none of them goes wrong. -/
theorem balanced_iff_imbalance?_eq_none (tokens : List Token) :
    Balanced tokens ↔ imbalance? (tokens.map mark) = none := by
  constructor
  · intro balanced
    obtain ⟨phrase, rfl⟩ := exists_phrase balanced
    rw [map_mark_spelled]
    exact imbalance?_flatten (roles phrase)
  · intro right
    exact balanced_of_flatten _ tokens (flatten_read right)

/-- What melting leaves of a phrase, when it is known whether an operand stands before it. A group
without content goes as a whole. -/
def melted (operandBefore : Bool) : Level Word → Level Word
  | .done => .done
  | .item word rest =>
      let later := melted (operandAfter operandBefore word.role) rest
      if stays operandBefore (outlook (roles rest)) word.role then .item word later else later
  | .group inner rest =>
      if (outlook (roles inner)).hasContent then .group (melted false inner) (melted true rest)
      else melted operandBefore rest

theorem melted_item_of_stays {operandBefore : Bool} {word : Word} {rest : Level Word}
    (kept : stays operandBefore (outlook (roles rest)) word.role = true) :
    melted operandBefore (.item word rest) =
      .item word (melted (operandAfter operandBefore word.role) rest) := by
  rw [melted, if_pos kept]

theorem melted_item_of_gone {operandBefore : Bool} {word : Word} {rest : Level Word}
    (gone : stays operandBefore (outlook (roles rest)) word.role = false) :
    melted operandBefore (.item word rest) =
      melted (operandAfter operandBefore word.role) rest := by
  rw [melted, gone, if_neg Bool.false_ne_true]

theorem melted_group_of_content (operandBefore : Bool) {inner : Level Word} (rest : Level Word)
    (content : (outlook (roles inner)).hasContent = true) :
    melted operandBefore (.group inner rest) = .group (melted false inner) (melted true rest) := by
  rw [melted, if_pos content]

theorem melted_group_of_noContent (operandBefore : Bool) {inner : Level Word} (rest : Level Word)
    (noContent : (outlook (roles inner)).hasContent = false) :
    melted operandBefore (.group inner rest) = melted operandBefore rest := by
  rw [melted, noContent, if_neg Bool.false_ne_true]

/-- The first token is selected when it is to stay. -/
theorem select_cons (token : Token) (tokens : List Token) (answer : Bool) (kept : List Bool) :
    select (token :: tokens) (answer :: kept) =
      if answer then token :: select tokens kept else select tokens kept := by
  cases answer <;> rfl

/-- The selected tokens of a list in two parts are those of the parts. -/
theorem select_append (first second : List Token) (kept later : List Bool)
    (size : first.length = kept.length) :
    select (first ++ second) (kept ++ later) = select first kept ++ select second later := by
  rw [select, List.zip_append size, List.filter_append, List.map_append, select, select]

/-- Another token in each place does not change which places are selected. -/
theorem select_map (change : Token → Token) (tokens : List Token) (kept : List Bool) :
    select (tokens.map change) kept = (select tokens kept).map change := by
  rw [select, List.zip_map_left, List.filter_map, List.map_map, select, List.map_map]
  rfl

section Marked

variable {change : Token → Token} (keepsMark : ∀ token, mark (change token) = mark token)

include keepsMark

/-- Which tokens stay depends on their marks only. -/
theorem survivors_map (tokens : List Token) : survivors (tokens.map change) = survivors tokens := by
  have marks : (tokens.map change).map mark = tokens.map mark := by
    rw [List.map_map]
    exact List.map_congr_left fun token _ => keepsMark token
  rw [survivors, marks, List.length_map, survivors]

/-- Tokens with the same marks melt in the same places. -/
theorem melt_map (tokens : List Token) :
    melt (tokens.map change) = (melt tokens).map (List.map change) := by
  rw [melt, survivors_map keepsMark, melt]
  cases survivors tokens with
  | error fault => rfl
  | ok answers => exact congrArg Except.ok (select_map change tokens answers)

end Marked

/-- Nothing is selected when no token is to stay. -/
theorem select_eq_nil (tokens : List Token) (kept : List Bool)
    (noneStays : ∀ answer ∈ kept, answer = false) : select tokens kept = [] := by
  rw [select, List.map_eq_nil_iff, List.filter_eq_nil_iff]
  intro pair member
  simp [noneStays pair.2 (List.of_mem_zip member).2]

/-- A survey of a phrase has one answer for each of its tokens. -/
theorem length_survey_roles (phrase : Level Word) (operandBefore : Bool) :
    (survey operandBefore (roles phrase)).length = (spelled phrase).length := by
  rw [length_survey, ← map_mark_spelled, List.length_map]

/-- The tokens that stay of a phrase spell the melted phrase. -/
theorem select_survey (phrase : Level Word) (operandBefore : Bool) :
    select (spelled phrase) (survey operandBefore (roles phrase)) =
      spelled (melted operandBefore phrase) := by
  induction phrase generalizing operandBefore with
  | done => rfl
  | item word rest inductionHypothesis =>
      rw [spelled, roles, survey, melted, select_cons, inductionHypothesis]
      split <;> rfl
  | group inner rest innerHypothesis restHypothesis =>
      have size := (length_survey_roles inner false).symm
      rw [spelled, Token.bracketed_append, roles, survey, List.cons_append, select_cons,
        select_append _ _ _ _ size, select_cons]
      cases content : (outlook (roles inner)).hasContent with
      | true =>
          rw [melted_group_of_content operandBefore rest content, spelled, Token.bracketed_append,
            if_pos rfl, if_pos rfl, innerHypothesis, Bool.or_true, restHypothesis]
      | false =>
          have nothing := select_eq_nil (spelled inner) _
            (eq_false_of_mem_survey (roles inner) false content)
          rw [melted_group_of_noContent operandBefore rest content, if_neg Bool.false_ne_true,
            if_neg Bool.false_ne_true, nothing, Bool.or_false, restHypothesis, List.nil_append]

/-- A phrase melts to the melted phrase. -/
theorem melt_spelled (phrase : Level Word) :
    melt (spelled phrase) = .ok (spelled (melted false phrase)) := by
  simp only [melt, survivors_flatten (map_mark_spelled phrase), select_survey, bind, Except.bind]

/-- Whatever has balanced brackets melts. -/
theorem exists_melt {tokens : List Token} (balanced : Balanced tokens) :
    ∃ kept, melt tokens = .ok kept := by
  obtain ⟨phrase, rfl⟩ := exists_phrase balanced
  exact ⟨_, melt_spelled phrase⟩

/-- Only balanced brackets have an answer. -/
theorem balanced_of_survivors {tokens : List Token} {kept : List Bool}
    (result : survivors tokens = .ok kept) : Balanced tokens := by
  rw [balanced_iff_imbalance?_eq_none]
  cases wrong : imbalance? (tokens.map mark) with
  | none => rfl
  | some imbalance =>
      rw [survivors_of_imbalance wrong] at result
      cases result

/-- A statement that melts has balanced brackets. -/
theorem balanced_of_melt {tokens kept : List Token} (result : melt tokens = .ok kept) :
    Balanced tokens := by
  cases answers : survivors tokens with
  | error fault =>
      rw [melt, answers] at result
      cases result
  | ok answer => exact balanced_of_survivors answers

end Melt

end SqlTemplate
