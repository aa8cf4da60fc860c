import SqlTemplate.Proofs.Melt.Phrase
import SqlTemplate.Proofs.Melt.Item

/-!
This file says which bracket of a statement is blamed when the brackets are not balanced. A closing bracket is
blamed where more brackets are closed than opened for the first time; otherwise the last opening bracket
without a partner is blamed.
-/

namespace SqlTemplate.Melt

open Nesting

/-- More brackets are closed than opened. -/
def Overdrawn (tokens : List Token) : Prop :=
  tokens.countP Token.isOpening < tokens.countP Token.isClosing

/-- Up to the closing bracket at the place more brackets are closed than opened, and nowhere before. -/
structure FirstExcess (tokens : List Token) (place : Nat) : Prop where
  closing : tokens[place]? = some (.bracket .closing)
  overdrawn : Overdrawn (tokens.take (place + 1))
  first : ∀ size ≤ place, ¬ Overdrawn (tokens.take size)

/-- The opening bracket in front of the tokens has its partner among them. -/
def HasPartner (after : List Token) : Prop :=
  ∃ inner rest, after = inner ++ .bracket .closing :: rest ∧ Balanced inner

/-- The opening bracket at the place has no partner. -/
structure Unclosed (tokens : List Token) (place : Nat) : Prop where
  opening : tokens[place]? = some (.bracket .opening)
  alone : ¬ HasPartner (tokens.drop (place + 1))

/-- The opening bracket at the place has no partner, and every later one has. -/
structure LastUnclosed (tokens : List Token) (place : Nat) : Prop where
  unclosed : Unclosed tokens place
  last : ∀ later > place, ¬ Unclosed tokens later

/-- The tokens leave brackets open at the places, from the last one on. Before, between and behind these the
brackets are balanced. -/
inductive LeavesOpen : List Token → List Nat → Prop
  | nothing {tokens : List Token} (balanced : Balanced tokens) : LeavesOpen tokens []
  | opening {before inner : List Token} {places : List Nat} (around : LeavesOpen before places)
      (balanced : Balanced inner) :
      LeavesOpen (before ++ .bracket .opening :: inner) (before.length :: places)

namespace LeavesOpen

variable {tokens : List Token} {places : List Nat}

/-- Balanced tokens leave the same brackets open. -/
theorem append (leaves : LeavesOpen tokens places) {inner : List Token}
    (balanced : Balanced inner) : LeavesOpen (tokens ++ inner) places := by
  cases leaves with
  | nothing tokensBalanced => exact .nothing (balanced_append tokensBalanced balanced)
  | opening around innerBalanced =>
      rw [List.append_assoc]
      exact .opening around (balanced_append innerBalanced balanced)

/-- A closing bracket closes the last bracket that is open. -/
theorem close {place : Nat} (leaves : LeavesOpen tokens (place :: places)) :
    LeavesOpen (tokens ++ [.bracket .closing]) places := by
  cases leaves with
  | @opening before inner _ around balanced =>
      have group : Balanced (Token.bracketed inner) := by
        simpa using Balanced.group balanced .empty
      simpa [Token.bracketed] using around.append group

end LeavesOpen

/-- A word leaves the brackets as they are. -/
theorem balanced_word {token : Token} {role : Role} (item : mark token = .item role) :
    Balanced [token] :=
  .word (isBracket_of_mark item) .empty

/-- The blame for brackets that are not balanced. The tokens seen so far leave some brackets open. -/
theorem blame_imbalanceFrom (rest : List Token) {seen : List Token} {places : List Nat}
    (leaves : LeavesOpen seen places) :
    match imbalanceFrom seen.length places (rest.map mark) with
    | none => Balanced (seen ++ rest)
    | some (.unmatchedClosing place) => ∃ before after, Balanced before ∧ before.length = place ∧
        seen ++ rest = before ++ .bracket .closing :: after
    | some (.unclosedOpening place) => ∃ outer, LeavesOpen (seen ++ rest) (place :: outer) := by
  induction rest generalizing seen places with
  | nil =>
      rw [List.append_nil]
      cases leaves with
      | nothing balanced => exact balanced
      | opening around balanced => exact ⟨_, .opening around balanced⟩
  | cons token rest inductionHypothesis =>
      rw [List.append_cons, List.map_cons]
      have size : (seen ++ [token]).length = seen.length + 1 := by simp
      cases role : mark token with
      | item content =>
          rw [imbalanceFrom, ← size]
          exact inductionHypothesis (leaves.append (balanced_word role))
      | opening =>
          obtain rfl := (mark_eq_opening_iff token).mp role
          rw [imbalanceFrom, ← size]
          exact inductionHypothesis (.opening leaves .empty)
      | closing =>
          obtain rfl := (mark_eq_closing_iff token).mp role
          cases places with
          -- Nothing is open, so that all that was seen is balanced.
          | nil =>
              cases leaves with
              | nothing balanced => exact ⟨seen, rest, balanced, rfl, by simp⟩
          | cons latest outer =>
              rw [imbalanceFrom, ← size]
              exact inductionHypothesis leaves.close

/-- As many brackets are closed as opened, when they are balanced. -/
theorem countP_of_balanced {tokens : List Token} (balanced : Balanced tokens) :
    tokens.countP Token.isOpening = tokens.countP Token.isClosing := by
  induction balanced with
  | empty => rfl
  | @word token rest notBracket _ inductionHypothesis =>
      let word : Word := ⟨token, notBracket⟩
      have notOpening : ¬ token.isOpening = true := by simp [word.isOpening_token, word]
      have notClosing : ¬ token.isClosing = true := by simp [word.isClosing_token, word]
      rw [List.countP_cons_of_neg notOpening, List.countP_cons_of_neg notClosing,
        inductionHypothesis]
  | group _ _ innerHypothesis restHypothesis =>
      simp [Token.bracketed, List.countP_append, List.countP_cons, Token.isOpening,
        Token.isClosing, innerHypothesis, restHypothesis]
      omega

/-- Brackets that are left open are opened and not closed. -/
theorem countP_of_leavesOpen {tokens : List Token} {places : List Nat}
    (leaves : LeavesOpen tokens places) :
    tokens.countP Token.isOpening = tokens.countP Token.isClosing + places.length := by
  induction leaves with
  | nothing balanced => simpa using countP_of_balanced balanced
  | opening _ balanced inductionHypothesis =>
      have innerCount := countP_of_balanced balanced
      simp [List.countP_append, List.countP_cons, Token.isOpening, Token.isClosing,
        inductionHypothesis, innerCount]
      omega

/-- Behind balanced tokens a closing bracket is blamed. -/
theorem imbalance?_of_stray {before after : List Token} (balanced : Balanced before) :
    imbalance? ((before ++ .bracket .closing :: after).map mark) =
      some (.unmatchedClosing before.length) := by
  obtain ⟨phrase, rfl⟩ := exists_phrase balanced
  have size : (roles phrase).flatten.length = (spelled phrase).length := by
    rw [← map_mark_spelled, List.length_map]
  rw [List.map_append, map_mark_spelled, imbalance?, imbalanceFrom_flatten_append, size,
    Nat.zero_add]
  rfl

/-- A closing bracket behind balanced tokens closes too much. -/
theorem overdrawn_of_stray {before : List Token} (after : List Token) (balanced : Balanced before) :
    Overdrawn ((before ++ .bracket .closing :: after).take (before.length + 1)) := by
  have upTo : (before ++ .bracket .closing :: after).take (before.length + 1) =
      before ++ [.bracket .closing] := by
    simp [List.take_append, List.take_of_length_le]
  simp [upTo, Overdrawn, countP_of_balanced balanced, Token.isOpening, Token.isClosing]

/-- Where too much is closed, a closing bracket stands behind balanced tokens. -/
theorem exists_stray_of_overdrawn {tokens : List Token} {size : Nat}
    (overdrawn : Overdrawn (tokens.take size)) :
    ∃ before after, Balanced before ∧ tokens = before ++ .bracket .closing :: after := by
  have blame := blame_imbalanceFrom (tokens.take size) (.nothing .empty)
  rw [List.nil_append] at blame
  split at blame
  · have count := countP_of_balanced blame
    exact absurd overdrawn (by rw [Overdrawn]; omega)
  · obtain ⟨before, after, balanced, -, split⟩ := blame
    refine ⟨before, after ++ tokens.drop size, balanced, ?_⟩
    rw [← List.cons_append, ← List.append_assoc, ← split, List.take_append_drop]
  · obtain ⟨outer, leaves⟩ := blame
    have count := countP_of_leavesOpen leaves
    exact absurd overdrawn (by rw [Overdrawn]; omega)

/-- No prefix of balanced tokens is overdrawn. -/
theorem not_overdrawn_of_balanced {tokens : List Token} (balanced : Balanced tokens) (size : Nat) :
    ¬ Overdrawn (tokens.take size) := by
  intro overdrawn
  obtain ⟨before, after, beforeBalanced, rfl⟩ := exists_stray_of_overdrawn overdrawn
  have right := (balanced_iff_imbalance?_eq_none _).mp balanced
  rw [imbalance?_of_stray beforeBalanced] at right
  cases right

/-- A closing bracket behind balanced tokens is the first that closes too much. -/
theorem firstExcess_of_stray {before : List Token} (after : List Token)
    (balanced : Balanced before) :
    FirstExcess (before ++ .bracket .closing :: after) before.length := by
  refine ⟨by simp, overdrawn_of_stray after balanced, fun size within => ?_⟩
  rw [List.take_append_of_le_length within]
  exact not_overdrawn_of_balanced balanced size

/-- Among balanced tokens every opening bracket has its partner. -/
theorem hasPartner_of_balanced {tokens : List Token} (balanced : Balanced tokens)
    {before after : List Token} (split : tokens = before ++ .bracket .opening :: after) :
    HasPartner after := by
  induction balanced generalizing before after with
  | empty => simp at split
  | word notBracket _ inductionHypothesis =>
      cases before with
      | nil =>
          obtain ⟨rfl, -⟩ := List.cons.inj split
          cases notBracket
      | cons first earlier => exact inductionHypothesis (List.cons.inj split).2
  | @group inner rest innerBalanced _ innerHypothesis restHypothesis =>
      rw [Token.bracketed_append] at split
      cases before with
      | nil => exact ⟨inner, rest, (List.cons.inj split).2.symm, innerBalanced⟩
      | cons first earlier =>
          rcases List.append_eq_append_iff.mp (List.cons.inj split).2 with
            ⟨between, -, behind⟩ | ⟨between, within, behind⟩
          · cases between with
            | nil => cases behind
            | cons closing between => exact restHypothesis (List.cons.inj behind).2
          · cases between with
            | nil => cases behind
            | cons opening between =>
                obtain ⟨rfl, rfl⟩ := List.cons.inj behind
                obtain ⟨found, later, rfl, foundBalanced⟩ := innerHypothesis within
                exact ⟨found, later ++ .bracket .closing :: rest, by simp, foundBalanced⟩

theorem eq_take_append_cons_drop {tokens : List Token} {place : Nat} {token : Token}
    (found : tokens[place]? = some token) :
    tokens = tokens.take place ++ token :: tokens.drop (place + 1) := by
  obtain ⟨inside, rfl⟩ := List.getElem?_eq_some_iff.mp found
  rw [List.getElem_cons_drop, List.take_append_drop]

/-- No opening bracket of balanced tokens is without a partner. -/
theorem not_unclosed_of_balanced {tokens : List Token} (balanced : Balanced tokens) (place : Nat) :
    ¬ Unclosed tokens place := by
  rintro ⟨opening, alone⟩
  exact alone (hasPartner_of_balanced balanced (eq_take_append_cons_drop opening))

/-- Of the brackets that are left open the last one is the last without a partner. -/
theorem lastUnclosed_of_leavesOpen {tokens : List Token} {place : Nat} {outer : List Nat}
    (leaves : LeavesOpen tokens (place :: outer)) : LastUnclosed tokens place := by
  cases leaves with
  | @opening before inner _ around balanced =>
      have behind (further : Nat) :
          (before ++ .bracket .opening :: inner).drop (before.length + further + 1) =
            inner.drop further := by
        rw [Nat.add_assoc, List.drop_append]
        simp
      refine ⟨⟨by simp, ?_⟩, fun later beyond unclosed => ?_⟩
      -- A partner of its own would close too much behind it, where all is balanced.
      · rintro ⟨found, rest, split, foundBalanced⟩
        rw [behind 0, List.drop_zero] at split
        subst split
        exact not_overdrawn_of_balanced balanced _ (overdrawn_of_stray rest foundBalanced)
      · obtain ⟨further, rfl⟩ := Nat.exists_eq_add_of_lt beyond
        obtain ⟨opening, alone⟩ := unclosed
        have shifted : (before ++ .bracket .opening :: inner)[before.length + further + 1]? =
            inner[further]? := by
          rw [Nat.add_assoc, List.getElem?_append_right (by omega)]
          simp
        rw [shifted] at opening
        have aloneWithin : ¬ HasPartner (inner.drop (further + 1)) := by
          rwa [← behind (further + 1)]
        exact not_unclosed_of_balanced balanced further ⟨opening, aloneWithin⟩

/-- The bracket that is blamed for the imbalance of a statement. -/
theorem blame_imbalance? (tokens : List Token) :
    match imbalance? (tokens.map mark) with
    | none => Balanced tokens
    | some (.unmatchedClosing place) => FirstExcess tokens place
    | some (.unclosedOpening place) =>
        (∀ size, ¬ Overdrawn (tokens.take size)) ∧ LastUnclosed tokens place := by
  have blame := blame_imbalanceFrom tokens (.nothing .empty)
  rw [List.nil_append, List.length_nil, ← imbalance?] at blame
  cases blamed : imbalance? (tokens.map mark) with
  | none =>
      rw [blamed] at blame
      exact blame
  | some imbalance =>
      rw [blamed] at blame
      cases imbalance with
      | unmatchedClosing place =>
          obtain ⟨before, after, balanced, rfl, rfl⟩ := blame
          exact firstExcess_of_stray after balanced
      | unclosedOpening place =>
          obtain ⟨outer, leaves⟩ := blame
          refine ⟨fun size overdrawn => ?_, lastUnclosed_of_leavesOpen leaves⟩
          obtain ⟨before, after, balanced, rfl⟩ := exists_stray_of_overdrawn overdrawn
          rw [imbalance?_of_stray balanced] at blamed
          cases blamed

end SqlTemplate.Melt
