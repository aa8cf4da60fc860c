import SqlTemplate.Proofs.Melt.Kind
import SqlTemplate.Proofs.Outcome
import SqlTemplate.Proofs.Statement.Collected
import SqlTemplate.Statement.Basic

/-!
This file says what each token of a statement takes from the supply of parameters and what it brings
into the statement. The parameters of a rendered statement are those that its tokens bring, and the
supply is used up.
-/

namespace SqlTemplate.Statement

/-- Each token that is not dead, beside the parameters that it takes from the supply. A token with bound
values takes none; any other takes one for each of its placeholders. -/
def shares (supply : List Parameter) : List Token → List (Token × List Parameter)
  | [] => []
  | token :: rest =>
      if token.isDead then shares supply rest
      else if token.boundValues.isEmpty then
        (token, supply.take token.placeholders) :: shares (supply.drop token.placeholders) rest
      else (token, []) :: shares supply rest

/-- The parameters that a token brings into the statement. Its bound values are named like its column;
a parameter taken from the supply keeps its own name, and is named like the column without one. -/
def brought (share : Token × List Parameter) : List NamedValue :=
  if share.1.boundValues.isEmpty then
    share.2.map fun parameter => ⟨parameter.name.or share.1.column?, parameter.value⟩
  else share.1.boundValues.map fun value => ⟨share.1.column?, value⟩

/-- The tokens with a share are those that are not dead. -/
theorem map_fst_shares (supply : List Parameter) (tokens : List Token) :
    (shares supply tokens).map Prod.fst = tokens.filter fun token => !token.isDead := by
  induction tokens generalizing supply with
  | nil => rfl
  | cons token rest inductionHypothesis =>
      rw [shares]
      cases dead : token.isDead with
      | true => simp [dead, inductionHypothesis]
      | false =>
          cases token.boundValues.isEmpty <;> simp [dead, inductionHypothesis]

/-- The first token is paired when it is not dead. It is served by the supply, or by the values that are bound to
it, and the other tokens are paired with what is left. -/
theorem pairFrom_cons_eq_ok {token : Token} {rest : List Token} {position : Nat}
    {supply : List Parameter} {entries : List NamedValue}
    (paired : pairFrom position supply (token :: rest) = .ok entries) :
    ¬ token.isDead = true ∧
      ((token.boundValues.isEmpty = true ∧ token.placeholders ≤ supply.length ∧
          ∃ later, pairFrom (position + 1) (supply.drop token.placeholders) rest = .ok later ∧
            entries = (supply.take token.placeholders).map (suppliedParameter token) ++ later) ∨
        (¬ token.boundValues.isEmpty = true ∧
          token.boundValues.length = token.placeholders ∧
          ∃ later, pairFrom (position + 1) supply rest = .ok later ∧
            entries = boundParameters token ++ later)) := by
  rw [pairFrom] at paired
  split at paired
  · cases paired
  · rename_i alive
    refine ⟨alive, ?_⟩
    split at paired
    · rename_i unbound
      split at paired
      · cases paired
      · rename_i enough
        obtain ⟨later, laterPaired, whole⟩ := (bind_eq_ok_iff _ _ _).mp paired
        cases whole
        exact .inl ⟨unbound, Nat.le_of_not_lt enough, later, laterPaired, rfl⟩
    · rename_i bound
      split at paired
      · rename_i size
        obtain ⟨later, laterPaired, whole⟩ := (bind_eq_ok_iff _ _ _).mp paired
        cases whole
        exact .inr ⟨bound, size, later, laterPaired, rfl⟩
      · cases paired

/-- When the tokens can be paired, they bring the parameters of the statement, one for each of their
placeholders, and use up the supply. -/
theorem shares_of_pairFrom {tokens : List Token} {position : Nat} {supply : List Parameter}
    {entries : List NamedValue} (paired : pairFrom position supply tokens = .ok entries) :
    entries = (shares supply tokens).flatMap brought ∧
      (shares supply tokens).flatMap Prod.snd = supply ∧
      ∀ share ∈ shares supply tokens, (brought share).length = share.1.placeholders := by
  induction tokens generalizing position supply entries with
  | nil =>
      cases supply with
      | nil =>
          cases paired
          exact ⟨rfl, rfl, by simp [shares]⟩
      | cons parameter rest => cases paired
  | cons token rest inductionHypothesis =>
      obtain ⟨alive, ⟨unbound, enough, later, laterPaired, rfl⟩ |
        ⟨bound, size, later, laterPaired, rfl⟩⟩ := pairFrom_cons_eq_ok paired
      · obtain ⟨rfl, used, exact⟩ := inductionHypothesis laterPaired
        have size : (brought (token, supply.take token.placeholders)).length =
            token.placeholders := by
          rw [brought, if_pos unbound, List.length_map, List.length_take, Nat.min_eq_left enough]
        rw [shares, if_neg alive, if_pos unbound]
        refine ⟨?_, ?_, ?_⟩
        · rw [List.flatMap_cons, brought, if_pos unbound]
          rfl
        · rw [List.flatMap_cons, used, List.take_append_drop]
        · rw [List.forall_mem_cons]
          exact ⟨size, exact⟩
      · obtain ⟨rfl, used, exact⟩ := inductionHypothesis laterPaired
        rw [shares, if_neg alive, if_neg bound]
        refine ⟨?_, ?_, ?_⟩
        · rw [List.flatMap_cons, brought, if_neg bound]
          rfl
        · rw [List.flatMap_cons, used, List.nil_append]
        · rw [List.forall_mem_cons, brought, if_neg bound, List.length_map]
          exact ⟨size, exact⟩

/-- A token that is neither dead nor an operand carries no value and has no placeholder. -/
theorem silent_of_not_isOperand {token : Token} (alive : token.isDead = false)
    (notOperand : token.isOperand = false) :
    token.boundValues = [] ∧ token.placeholders = 0 := by
  cases token with
  | expression body => simp_all [Token.isDead, Token.isOperand]
  | columnExpression columnName body => simp_all [Token.isDead, Token.isOperand]
  | text content => cases notOperand
  | column reference => cases notOperand
  | table reference => cases notOperand
  | _ => exact ⟨rfl, rfl⟩

/-- An operand is not dead. -/
theorem isDead_of_isOperand {token : Token} (operand : token.isOperand = true) :
    token.isDead = false := by
  cases token <;> simp_all [Token.isDead, Token.isOperand]

/-- The other tokens do not matter to the shares of the operands. -/
theorem shares_filter_isOperand (supply : List Parameter) (tokens : List Token) :
    shares supply (tokens.filter Token.isOperand) =
      (shares supply tokens).filter fun share => share.1.isOperand := by
  induction tokens generalizing supply with
  | nil => rfl
  | cons token rest inductionHypothesis =>
      cases operand : token.isOperand with
      | true =>
          have alive := isDead_of_isOperand operand
          rw [List.filter_cons_of_pos operand, shares, shares, alive]
          cases token.boundValues.isEmpty <;> simp [inductionHypothesis, operand]
      | false =>
          rw [List.filter_cons_of_neg (by simp [operand]), inductionHypothesis, shares]
          cases dead : token.isDead with
          | true => simp
          | false =>
              obtain ⟨unbound, noPlaceholder⟩ := silent_of_not_isOperand dead operand
              simp [unbound, noPlaceholder, operand]

/-- A token with a share is not dead and takes at most one parameter for each placeholder. -/
theorem alive_of_mem_shares {supply : List Parameter} {tokens : List Token}
    {share : Token × List Parameter} (member : share ∈ shares supply tokens) :
    share.1.isDead = false ∧ share.2.length ≤ share.1.placeholders := by
  induction tokens generalizing supply with
  | nil => cases member
  | cons token rest inductionHypothesis =>
      rw [shares] at member
      split at member
      · exact inductionHypothesis member
      · rename_i alive
        split at member
        · obtain rfl | later := List.mem_cons.mp member
          · exact ⟨by simpa using alive, List.length_take_le _ _⟩
          · exact inductionHypothesis later
        · obtain rfl | later := List.mem_cons.mp member
          · exact ⟨by simpa using alive, Nat.zero_le _⟩
          · exact inductionHypothesis later

/-- What is no operand takes nothing and brings nothing. -/
theorem share_of_not_isOperand {supply : List Parameter} {tokens : List Token}
    {share : Token × List Parameter} (member : share ∈ shares supply tokens)
    (notOperand : share.1.isOperand = false) :
    share.2 = [] ∧ brought share = [] ∧ share.1.placeholders = 0 := by
  obtain ⟨alive, few⟩ := alive_of_mem_shares member
  obtain ⟨unbound, noPlaceholder⟩ := silent_of_not_isOperand alive notOperand
  have nothing : share.2 = [] := List.eq_nil_of_length_eq_zero (by omega)
  exact ⟨nothing, by rw [brought, unbound, nothing]; rfl, noPlaceholder⟩

/-- Shares that bring nothing can be left out. -/
theorem flatMap_filter_shares {Part : Type} (part : Token × List Parameter → List Part)
    (supply : List Parameter) (tokens : List Token)
    (nothing : ∀ share ∈ shares supply tokens, share.1.isOperand = false → part share = []) :
    (shares supply (tokens.filter Token.isOperand)).flatMap part =
      (shares supply tokens).flatMap part := by
  rw [shares_filter_isOperand]
  generalize shares supply tokens = all at nothing
  induction all with
  | nil => rfl
  | cons share rest inductionHypothesis =>
      rw [List.forall_mem_cons] at nothing
      cases operand : share.1.isOperand with
      | true => simp [operand, inductionHypothesis nothing.2]
      | false => simp [operand, inductionHypothesis nothing.2, nothing.1 operand]

/-- The operands of a statement bring all its parameters. -/
theorem flatMap_brought_filter (supply : List Parameter) (tokens : List Token) :
    (shares supply (tokens.filter Token.isOperand)).flatMap brought =
      (shares supply tokens).flatMap brought :=
  flatMap_filter_shares brought supply tokens fun _ member notOperand =>
    (share_of_not_isOperand member notOperand).2.1

/-- The operands of a statement take all that is taken from the supply. -/
theorem flatMap_taken_filter (supply : List Parameter) (tokens : List Token) :
    (shares supply (tokens.filter Token.isOperand)).flatMap Prod.snd =
      (shares supply tokens).flatMap Prod.snd :=
  flatMap_filter_shares Prod.snd supply tokens fun _ member notOperand =>
    (share_of_not_isOperand member notOperand).1

/-- Statements with the same operands bring the same parameters, take the same from the supply, and
have one parameter for each placeholder in both or in none. -/
theorem shares_eq_of_operands (supply : List Parameter) {first second : List Token}
    (same : first.filter Token.isOperand = second.filter Token.isOperand) :
    (shares supply first).flatMap brought = (shares supply second).flatMap brought ∧
      (shares supply first).flatMap Prod.snd = (shares supply second).flatMap Prod.snd ∧
      ((∀ share ∈ shares supply first, (brought share).length = share.1.placeholders) →
        ∀ share ∈ shares supply second, (brought share).length = share.1.placeholders) := by
  refine ⟨?_, ?_, fun exact share member => ?_⟩
  · rw [← flatMap_brought_filter, same, flatMap_brought_filter]
  · rw [← flatMap_taken_filter, same, flatMap_taken_filter]
  · cases operand : share.1.isOperand with
    | true =>
        have filtered : share ∈ (shares supply second).filter fun share => share.1.isOperand :=
          List.mem_filter.mpr ⟨member, operand⟩
        rw [← shares_filter_isOperand, ← same, shares_filter_isOperand] at filtered
        exact exact share (List.mem_filter.mp filtered).1
    | false =>
        obtain ⟨-, nothing, noPlaceholder⟩ := share_of_not_isOperand member operand
        rw [nothing, noPlaceholder, List.length_nil]

/-- The parameters of a rendered statement are those that its shown tokens bring. -/
theorem pairFrom_of_render {context : Context} {tokens : List Token} {statement : Statement}
    (rendered : render context tokens = .ok statement) :
    ∃ entries, pairFrom 0 context.supply (visible tokens) = .ok entries ∧
      statement.parameters = .ofList entries := by
  obtain ⟨parameters, collected, later⟩ := (bind_eq_ok_iff _ _ _).mp rendered
  obtain ⟨written, -, whole⟩ := (bind_eq_ok_iff _ _ _).mp later
  rw [mapError_eq_ok_iff, collect_eq_ok_iff] at collected
  cases whole
  exact collected

/-- Every parameter of a rendered statement was added to those before it, so the indices count from one. -/
theorem indexed_of_render {context : Context} {tokens : List Token} {statement : Statement}
    (rendered : render context tokens = .ok statement) : statement.parameters.Indexed := by
  obtain ⟨entries, -, held⟩ := pairFrom_of_render rendered
  rw [held]
  exact Parameters.indexed_ofList entries

/-- What is left out is no operand. -/
theorem filter_isOperand_visible (tokens : List Token) :
    (visible tokens).filter Token.isOperand = tokens.filter Token.isOperand := by
  rw [visible, List.filter_filter]
  congr 1
  funext token
  cases token <;> simp [Token.isOperand]

end SqlTemplate.Statement
