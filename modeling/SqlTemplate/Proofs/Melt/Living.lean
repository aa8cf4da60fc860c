import SqlTemplate.Proofs.Melt.Kind

/-!
This file takes the dead tokens out of a statement before it melts. The same is left of the statement, and its
brackets go wrong where they went wrong before, only that the places are counted without the dead tokens.
-/

namespace SqlTemplate

namespace Nesting

/-- An imbalance at another place. -/
def Imbalance.rename (rename : Nat → Nat) : Imbalance → Imbalance
  | .unmatchedClosing position => .unmatchedClosing (rename position)
  | .unclosedOpening position => .unclosedOpening (rename position)

end Nesting

namespace Melt

open Nesting

/-- The tokens that are not dead. -/
def living (tokens : List Token) : List Token :=
  tokens.filter fun token => !token.isDead

@[simp] theorem living_nil : living [] = [] := rfl

theorem living_cons_of_dead {token : Token} (dead : token.isDead = true) (rest : List Token) :
    living (token :: rest) = living rest := by
  rw [living, List.filter_cons_of_neg (by simp [dead]), living]

theorem living_cons_of_alive {token : Token} (alive : token.isDead = false) (rest : List Token) :
    living (token :: rest) = token :: living rest := by
  rw [living, List.filter_cons_of_pos (by simp [alive]), living]

theorem living_append (first second : List Token) :
    living (first ++ second) = living first ++ living second :=
  List.filter_append first second

theorem living_bracketed (inner : List Token) :
    living (Token.bracketed inner) = Token.bracketed (living inner) := by
  rw [Token.bracketed, Token.bracketed, List.cons_append, living_cons_of_alive rfl, living_append]
  rfl

/-- The place counted without the dead tokens before it. -/
def rank (tokens : List Token) (place : Nat) : Nat :=
  (living (tokens.take place)).length

theorem rank_length (before after : List Token) :
    rank (before ++ after) before.length = (living before).length := by
  rw [rank, List.take_left]

/-- From any place on the brackets go wrong where they do without the dead tokens. -/
theorem imbalanceFrom_living (before rest : List Token) (openings : List Nat) :
    imbalanceFrom (living before).length (openings.map (rank (before ++ rest)))
        ((living rest).map mark) =
      (imbalanceFrom before.length openings (rest.map mark)).map
        (Imbalance.rename (rank (before ++ rest))) := by
  induction rest generalizing before openings with
  | nil =>
      cases openings <;> rfl
  | cons token rest inductionHypothesis =>
      have place := rank_length before (token :: rest)
      have later := inductionHypothesis (before ++ [token])
      rw [← List.append_cons, List.length_append, List.length_singleton, living_append] at later
      cases dead : token.isDead with
      | true =>
          have silent : mark token = .item .dead := (mark_eq_dead_iff token).mpr dead
          have uncounted : living before ++ living [token] = living before := by
            rw [living_cons_of_dead dead, living_nil, List.append_nil]
          rw [uncounted] at later
          rw [living_cons_of_dead dead, List.map_cons, silent]
          exact later openings
      | false =>
          have counted : (living before ++ living [token]).length = (living before).length + 1 := by
            rw [living_cons_of_alive dead, List.length_append]
            rfl
          rw [counted] at later
          rw [living_cons_of_alive dead, List.map_cons, List.map_cons]
          cases role : mark token with
          | item content => exact later openings
          | opening =>
              have deeper := later (before.length :: openings)
              rw [List.map_cons, place] at deeper
              exact deeper
          | closing =>
              cases openings with
              | nil =>
                  rw [List.map_nil, imbalanceFrom, imbalanceFrom, Option.map_some,
                    Imbalance.rename, place]
              | cons latest outer => exact later outer

/-- The brackets go wrong where they do without the dead tokens. -/
theorem imbalance?_living (tokens : List Token) :
    imbalance? ((living tokens).map mark) =
      (imbalance? (tokens.map mark)).map (Imbalance.rename (rank tokens)) :=
  imbalanceFrom_living [] tokens []

/-- The phrase without its dead words. -/
def livingPhrase : Level Word → Level Word
  | .done => .done
  | .item word rest =>
      if word.token.isDead then livingPhrase rest else .item word (livingPhrase rest)
  | .group inner rest => .group (livingPhrase inner) (livingPhrase rest)

theorem spelled_livingPhrase (phrase : Level Word) :
    spelled (livingPhrase phrase) = living (spelled phrase) := by
  induction phrase with
  | done => rfl
  | item word rest inductionHypothesis =>
      rw [livingPhrase, spelled]
      cases dead : word.token.isDead with
      | true => rw [if_pos rfl, living_cons_of_dead dead, inductionHypothesis]
      | false =>
          rw [if_neg Bool.false_ne_true, living_cons_of_alive dead, spelled, inductionHypothesis]
  | group inner rest innerHypothesis restHypothesis =>
      rw [livingPhrase, spelled, spelled, innerHypothesis, restHypothesis, living_append,
        living_bracketed]

/-- Nothing looks at dead words. -/
theorem outlook_livingPhrase (phrase : Level Word) :
    outlook (roles (livingPhrase phrase)) = outlook (roles phrase) := by
  induction phrase with
  | done => rfl
  | item word rest inductionHypothesis =>
      rw [livingPhrase, roles, outlook]
      cases dead : word.token.isDead with
      | true =>
          rw [if_pos rfl, inductionHypothesis, word.kinds.dead.mp dead]
          rfl
      | false => rw [if_neg Bool.false_ne_true, roles, outlook, inductionHypothesis]
  | group inner rest innerHypothesis restHypothesis =>
      rw [livingPhrase, roles, roles, outlook, outlook, innerHypothesis, restHypothesis]

/-- The dead words go anyway. -/
theorem melted_livingPhrase (phrase : Level Word) (operandBefore : Bool) :
    melted operandBefore (livingPhrase phrase) = melted operandBefore phrase := by
  induction phrase generalizing operandBefore with
  | done => rfl
  | item word rest inductionHypothesis =>
      rw [livingPhrase]
      cases dead : word.token.isDead with
      | true =>
          have role := word.kinds.dead.mp dead
          rw [if_pos rfl, inductionHypothesis, melted_item_of_gone (by rw [role, stays]), role,
            operandAfter]
      | false =>
          rw [if_neg Bool.false_ne_true, melted, melted, outlook_livingPhrase, inductionHypothesis]
  | group inner rest innerHypothesis restHypothesis =>
      rw [livingPhrase, melted, melted, outlook_livingPhrase, innerHypothesis, restHypothesis,
        restHypothesis]

/-- The same is left of a statement whether its dead tokens are there or not. -/
theorem melt_living {tokens : List Token} (balanced : Balanced tokens) :
    melt (living tokens) = melt tokens := by
  obtain ⟨phrase, rfl⟩ := exists_phrase balanced
  rw [← spelled_livingPhrase, melt_spelled, melt_spelled, melted_livingPhrase]

/-- Statements with the same living tokens melt to the same, or their brackets go wrong. -/
theorem melt_of_living {first second kept : List Token} (same : living first = living second)
    (melted : melt first = .ok kept) : melt second = .ok kept := by
  have firstBalanced := balanced_of_melt melted
  have secondBalanced : Balanced second := by
    have noImbalance := (balanced_iff_imbalance?_eq_none first).mp firstBalanced
    rw [balanced_iff_imbalance?_eq_none, ← Option.map_eq_none_iff, ← imbalance?_living, ← same,
      imbalance?_living, noImbalance, Option.map_none]
  rw [← melt_living secondBalanced, ← same, melt_living firstBalanced, melted]

end Melt

end SqlTemplate
