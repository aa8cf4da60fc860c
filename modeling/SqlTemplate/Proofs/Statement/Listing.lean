import Mathlib.Data.List.Basic
import SqlTemplate.Proofs.Melt.WellFormed
import SqlTemplate.Proofs.Statement.Refusal

/-!
This file follows a list in brackets through a statement. Its items stand between commas, melting leaves it as
it is, its commas bring no parameter, and it is written with a comma and a space between two items.
-/

namespace SqlTemplate

namespace Token

variable {separator token : Token} {items : List Token}

theorem mem_separated (member : token ∈ separated separator items) :
    token = separator ∨ token ∈ items := by
  induction items using separated.induct with
  | case1 => cases member
  | case2 last => exact .inr member
  | case3 first next rest inductionHypothesis =>
      rw [separated, List.mem_cons, List.mem_cons] at member
      rcases member with rfl | rfl | later
      · exact .inr List.mem_cons_self
      · exact .inl rfl
      · exact (inductionHypothesis later).imp_right (List.mem_cons_of_mem first)

theorem separated_ne_nil (notEmpty : items ≠ []) : separated separator items ≠ [] := by
  induction items using separated.induct with
  | case1 => exact absurd rfl notEmpty
  | case2 last => exact notEmpty
  | case3 first next rest inductionHypothesis => exact List.cons_ne_nil _ _

/-- The token is no bracket and fits between any neighbours. -/
structure IsSteady (token : Token) : Prop where
  notBracket : token.isBracket = false
  fits : ∀ previous next, token.fits previous next = true

/-- The token is not dead, has no values of its own and names no column. -/
structure IsBare (token : Token) : Prop where
  alive : token.isDead = false
  unbound : token.boundValues = []
  unnamed : token.column? = none

/-- A list in brackets is bare when its items are. -/
theorem bare_bracketed (bare : ∀ item ∈ items, item.IsBare) :
    ∀ token ∈ bracketed (separated (.keyword .comma) items), token.IsBare := by
  intro token member
  rw [bracketed, List.cons_append, List.mem_cons, List.mem_append, List.mem_singleton] at member
  rcases member with rfl | listed | rfl
  · exact ⟨rfl, rfl, rfl⟩
  · rcases mem_separated listed with rfl | item
    · exact ⟨rfl, rfl, rfl⟩
    · exact bare token item
  · exact ⟨rfl, rfl, rfl⟩

/-- A list is steady when its items are. -/
theorem steady_separated (steady : ∀ item ∈ items, item.IsSteady) :
    ∀ token ∈ separated (.keyword .comma) items, token.IsSteady := by
  intro token member
  rcases mem_separated member with rfl | item
  · exact ⟨rfl, fun _ _ => rfl⟩
  · exact steady token item

end Token

namespace Melt

variable {tokens inner : List Token}

theorem balanced_of_steady (steady : ∀ token ∈ tokens, token.IsSteady) : Balanced tokens := by
  induction tokens with
  | nil => exact .empty
  | cons token rest inductionHypothesis =>
      rw [List.forall_mem_cons] at steady
      exact .word steady.1.notBracket (inductionHypothesis steady.2)

theorem fitting_of_steady (steady : ∀ token ∈ tokens, token.IsSteady) (previous next : Option Token) :
    fitting previous next tokens = true := by
  induction tokens generalizing previous with
  | nil => rfl
  | cons token rest inductionHypothesis =>
      rw [List.forall_mem_cons] at steady
      rw [fitting, steady.1.fits, inductionHypothesis steady.2, Bool.and_self]

/-- A list in brackets fits wherever it stands, unless it is empty. -/
theorem fitting_bracketed (steady : ∀ token ∈ inner, token.IsSteady) (notEmpty : inner ≠ [])
    (previous next : Option Token) : fitting previous next (Token.bracketed inner) = true := by
  have beginning : Token.fits previous (.bracket .opening)
      (inner.head?.or (some (.bracket .closing))) = true := by
    cases inner with
    | nil => exact absurd rfl notEmpty
    | cons token rest =>
        have notBracket := (steady token List.mem_cons_self).notBracket
        cases token <;> first | rfl | cases notBracket
  rw [Token.bracketed, List.cons_append, fitting, fitting_append, fitting_of_steady steady,
    List.head?_append]
  simpa [fitting, Token.fits, Token.isDead] using beginning

end Melt

namespace Statement

/-- The commas of a list need no parameter. -/
theorem demand_separated (items : List Token) :
    demand (Token.separated (.keyword .comma) items) = demand items := by
  induction items using Token.separated.induct with
  | case1 => rfl
  | case2 last => rfl
  | case3 first next rest inductionHypothesis =>
      have silent : Token.waiting (.keyword .comma) = 0 := rfl
      rw [Token.separated, demand_cons, demand_cons, inductionHypothesis, silent, Nat.zero_add,
        demand_cons first]

theorem demand_append (first second : List Token) :
    demand (first ++ second) = demand first + demand second := by
  rw [demand, List.map_append, List.sum_append, demand, demand]

/-- A list in brackets needs the parameters of its items. -/
theorem demand_bracketed (items : List Token) :
    demand (Token.bracketed (Token.separated (.keyword .comma) items)) = demand items := by
  have silent (half : Bracket) : Token.waiting (.bracket half) = 0 := rfl
  rw [Token.bracketed, List.cons_append, demand_cons, demand_append, demand_separated, demand_cons,
    silent, silent, demand_nil, Nat.zero_add, Nat.add_zero]

/-- All placeholders of bare tokens wait for the supply. -/
theorem demand_of_bare {tokens : List Token} (bare : ∀ token ∈ tokens, token.IsBare) :
    (tokens.map Token.placeholders).sum = demand tokens := by
  rw [demand]
  congr 1
  refine List.map_congr_left fun token member => ?_
  have tokenBare := bare token member
  rw [Token.waiting_of_unbound tokenBare.alive (by rw [tokenBare.unbound]; rfl)]

/-- Bare tokens take the supply as it is, with its names, when it is as long as they need. -/
theorem pairFrom_of_bare {tokens : List Token} {supply : List Parameter}
    (bare : ∀ token ∈ tokens, token.IsBare) (enough : supply.length = demand tokens) :
    pairFrom 0 supply tokens = .ok (supply.map Parameter.toNamedValue) := by
  have alive : ∀ token ∈ tokens, token.isDead = false := fun token member => (bare token member).alive
  have served : Served supply tokens :=
    ⟨fun token member => .inl (bare token member).unbound, Nat.le_of_eq enough.symm⟩
  obtain ⟨entries, paired⟩ := exists_pairFrom alive served enough
  obtain ⟨brings, used, -⟩ := shares_of_pairFrom paired
  have taken : ∀ share ∈ shares supply tokens,
      brought share = share.2.map Parameter.toNamedValue := by
    intro share member
    have inTokens : share.1 ∈ (shares supply tokens).map Prod.fst := List.mem_map_of_mem member
    rw [map_fst_shares] at inTokens
    have shareBare := bare share.1 (List.mem_filter.mp inTokens).1
    rw [brought, shareBare.unbound, shareBare.unnamed, List.isEmpty_nil, if_pos rfl]
    simp
  have named : (shares supply tokens).flatMap brought = supply.map Parameter.toNamedValue := by
    rw [List.flatMap_congr taken, ← List.map_flatMap]
    exact congrArg _ used
  rw [paired, brings, named]

/-- Bare tokens are refused when the supply is not as long as they need. -/
theorem pairFrom_eq_error_of_bare {tokens : List Token} {supply : List Parameter}
    (bare : ∀ token ∈ tokens, token.IsBare) (other : supply.length ≠ demand tokens) :
    ∃ cause, pairFrom 0 supply tokens = .error cause := by
  rcases exists_unpaired tokens supply with ⟨-, enough⟩ | ⟨cause, unpaired⟩
  · exact absurd enough other
  · exact ⟨cause, pairFrom_of_unpaired (fun token member => (bare token member).alive) unpaired⟩

variable {context : Context} {parameters : Parameters} {numbering : Numbering}

/-- Two parts of a statement are written one after the other. -/
theorem fragmentsFrom_append {first second : List Token} {firstParts secondParts : List (Token × String)}
    (firstWritten : fragmentsFrom context parameters numbering first = .ok firstParts)
    (secondWritten : fragmentsFrom context parameters
      (numbering.advance (first.map Token.placeholders).sum) second = .ok secondParts) :
    fragmentsFrom context parameters numbering (first ++ second) =
      .ok (firstParts ++ secondParts) := by
  induction first generalizing numbering firstParts with
  | nil =>
      cases firstWritten
      rw [List.map_nil, List.sum_nil, Numbering.advance_zero] at secondWritten
      exact secondWritten
  | cons token rest inductionHypothesis =>
      obtain ⟨⟨fragment, after⟩, own, others⟩ := (bind_eq_ok_iff _ _ _).mp firstWritten
      obtain ⟨later, laterWritten, whole⟩ := (bind_eq_ok_iff _ _ _).mp others
      cases whole
      obtain rfl := numbering_of_writeToken own
      rw [List.map_cons, List.sum_cons, Numbering.advance_add] at secondWritten
      rw [List.cons_append, fragmentsFrom, own, ok_bind]
      dsimp only
      rw [inductionHypothesis laterWritten secondWritten]
      rfl

/-- What stands in brackets is written between their signs. -/
theorem fragmentsFrom_bracketed {inner : List Token} {parts : List (Token × String)}
    (written : fragmentsFrom context parameters numbering inner = .ok parts) :
    fragmentsFrom context parameters numbering (Token.bracketed inner) =
      .ok ((.bracket .opening, "(") :: parts ++ [(.bracket .closing, ")")]) := by
  rw [Token.bracketed]
  apply fragmentsFrom_append
  · rw [fragmentsFrom, writeToken, ok_bind]
    dsimp only
    rw [written]
    rfl
  · rfl

/-- The fragments of a list with its commas. -/
def withCommas : List (Token × String) → List (Token × String)
  | [] => []
  | [last] => [last]
  | part :: next :: rest => part :: (.keyword .comma, ",") :: withCommas (next :: rest)

theorem fragmentsFrom_separated {items : List Token} {parts : List (Token × String)}
    (written : fragmentsFrom context parameters numbering items = .ok parts) :
    fragmentsFrom context parameters numbering (Token.separated (.keyword .comma) items) =
      .ok (withCommas parts) := by
  induction items using Token.separated.induct generalizing numbering parts with
  | case1 =>
      cases written
      rfl
  | case2 last =>
      obtain ⟨own, ownWritten, others⟩ := (bind_eq_ok_iff _ _ _).mp written
      cases others
      exact written
  | case3 first second rest inductionHypothesis =>
      obtain ⟨⟨own, after⟩, ownWritten, others⟩ := (bind_eq_ok_iff _ _ _).mp written
      obtain ⟨later, laterWritten, whole⟩ := (bind_eq_ok_iff _ _ _).mp others
      cases whole
      have listed := inductionHypothesis laterWritten
      obtain ⟨_, -, others⟩ := (bind_eq_ok_iff _ _ _).mp laterWritten
      obtain ⟨_, -, whole⟩ := (bind_eq_ok_iff _ _ _).mp others
      cases whole
      rw [Token.separated, fragmentsFrom, ownWritten, ok_bind]
      dsimp only
      rw [fragmentsFrom, writeToken, ok_bind]
      dsimp only
      rw [listed]
      rfl

theorem exists_withCommas_cons (part : Token × String) (rest : List (Token × String)) :
    ∃ others, withCommas (part :: rest) = part :: others := by
  cases rest with
  | nil => exact ⟨[], rfl⟩
  | cons next later => exact ⟨_, rfl⟩

/-- There is no gap behind a bracket. -/
theorem join_bracket_cons (half : Bracket) (written : String) (rest : List (Token × String)) :
    join ((.bracket half, written) :: rest) = written ++ join rest := by
  cases rest with
  | nil => simp [join]
  | cons part later => simp [join, gap, Token.isBracket]

/-- A list in front of a closing bracket is written with a comma and a space between two items. -/
theorem join_withCommas {parts : List (Token × String)}
    (plain : ∀ part ∈ parts, part.1.isBracket = false ∧ part.1.isComma = false)
    (rest : List (Token × String)) :
    join (withCommas parts ++ (.bracket .closing, ")") :: rest) =
      ", ".intercalate (parts.map Prod.snd) ++ join ((.bracket .closing, ")") :: rest) := by
  induction parts using withCommas.induct with
  | case1 => simp [withCommas]
  | case2 last => simp [withCommas, join, gap, Token.isBracket]
  | case3 part next later inductionHypothesis =>
      rw [List.forall_mem_cons] at plain
      have listed := inductionHypothesis plain.2
      obtain ⟨nextBracket, nextComma⟩ := plain.2 next List.mem_cons_self
      obtain ⟨others, front⟩ := exists_withCommas_cons next later
      have beforeComma : gap part.1 (.keyword .comma) = "" := by simp [gap, Token.isComma]
      have afterComma : gap (.keyword .comma) next.1 = " " := by
        rw [gap, nextBracket, nextComma]
        rfl
      rw [front, List.cons_append] at listed
      rw [withCommas, front, List.cons_append, List.cons_append, List.cons_append, join, join, listed,
        beforeComma, afterComma, List.map_cons, List.map_cons, List.map_cons,
        String.intercalate_cons_cons]
      have separator : "," ++ " " = ", " := rfl
      simp only [String.append_assoc, String.empty_append, ← separator]

end Statement

end SqlTemplate
