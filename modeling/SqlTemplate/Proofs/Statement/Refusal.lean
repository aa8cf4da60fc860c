import Mathlib.Algebra.GroupWithZero.Nat
import SqlTemplate.Proofs.Statement.Outline
import SqlTemplate.Proofs.Statement.Shares

/-!
This file says with which fault the tokens of a statement are refused. Either they cannot be paired, and the
first token that does not get its values is blamed, or one of them cannot be written, and the first of these
is blamed.
-/

namespace SqlTemplate

namespace Token

/-- The values bound to the token are as many as its placeholders, if there are any. -/
def ValuesFit (token : Token) : Prop :=
  token.boundValues = [] ∨ token.boundValues.length = token.placeholders

instance (token : Token) : Decidable token.ValuesFit :=
  inferInstanceAs (Decidable (_ ∨ _))

/-- The placeholders of the token that wait for a parameter of the supply. A token with bound values has
none, and a dead one never waits. -/
def waiting (token : Token) : Nat :=
  if token.isDead || !token.boundValues.isEmpty then 0 else token.placeholders

theorem waiting_of_unbound {token : Token} (alive : token.isDead = false)
    (unbound : token.boundValues.isEmpty = true) : token.waiting = token.placeholders := by
  rw [waiting, alive, unbound]
  rfl

theorem waiting_of_bound {token : Token} (bound : token.boundValues.isEmpty = false) :
    token.waiting = 0 := by
  rw [waiting, bound, Bool.not_false, Bool.or_true, if_pos rfl]

/-- Only operands have placeholders that wait. -/
theorem waiting_of_not_isOperand {token : Token} (notOperand : token.isOperand = false) :
    token.waiting = 0 := by
  cases dead : token.isDead with
  | true => rw [waiting, dead, Bool.true_or, if_pos rfl]
  | false =>
      obtain ⟨unbound, noPlaceholder⟩ := Statement.silent_of_not_isOperand dead notOperand
      rw [waiting_of_unbound dead (by rw [unbound]; rfl), noPlaceholder]

end Token

namespace Statement

/-- The placeholders of all tokens that wait for the supply. -/
def demand (tokens : List Token) : Nat :=
  (tokens.map Token.waiting).sum

@[simp] theorem demand_nil : demand [] = 0 := rfl

@[simp] theorem demand_cons (token : Token) (rest : List Token) :
    demand (token :: rest) = token.waiting + demand rest := by
  rw [demand, List.map_cons, List.sum_cons, demand]

/-- The tokens get their values, whatever comes after them. -/
structure Served (supply : List Parameter) (tokens : List Token) : Prop where
  valuesFit : ∀ token ∈ tokens, token.ValuesFit
  enough : demand tokens ≤ supply.length

/-- The tokens cannot be paired with the supply. The first one that does not get its values is blamed, and
else the supply for what is left of it. -/
inductive Unpaired (supply : List Parameter) (tokens : List Token) : StateFault → Prop where
  | valueCount {before after : List Token} {token : Token}
      (split : tokens = before ++ token :: after) (served : Served supply before)
      (misfit : ¬ token.ValuesFit) :
      Unpaired supply tokens
        (.valueCount before.length token.placeholders token.boundValues.length)
  | missingValue {before after : List Token} {token : Token}
      (split : tokens = before ++ token :: after) (served : Served supply before)
      (fits : token.ValuesFit) (few : supply.length < demand before + token.waiting) :
      Unpaired supply tokens (.missingValue before.length)
  | surplusParameters (served : Served supply tokens) (many : demand tokens < supply.length) :
      Unpaired supply tokens .surplusParameters

/-- Tokens that are not dead are all shown. -/
theorem visible_of_alive {tokens : List Token} (alive : ∀ token ∈ tokens, token.isDead = false) :
    visible tokens = tokens := by
  rw [visible, List.filter_eq_self]
  intro token member
  rw [decide_eq_true_eq]
  rintro rfl
  cases alive _ member

/-- What is neither dead nor an operand has no values that could not fit. -/
theorem valuesFit_iff_operands (tokens : List Token) :
    (∀ token ∈ tokens, token.isDead = false → token.ValuesFit) ↔
      ∀ token ∈ tokens.filter Token.isOperand, token.ValuesFit := by
  constructor
  · intro fits token member
    obtain ⟨composed, operand⟩ := List.mem_filter.mp member
    exact fits token composed (isDead_of_isOperand operand)
  · intro fits token member alive
    cases operand : token.isOperand with
    | true => exact fits token (List.mem_filter.mpr ⟨member, operand⟩)
    | false => exact .inl (silent_of_not_isOperand alive operand).1

/-- A token that gets its values is passed, and the rest is paired with what is left of the supply. -/
theorem pairFrom_cons_of_served {token : Token} {supply : List Parameter} (position : Nat)
    (rest : List Token) (alive : token.isDead = false) (fits : token.ValuesFit)
    (enough : token.waiting ≤ supply.length) :
    ∃ own, pairFrom position supply (token :: rest) =
      (pairFrom (position + 1) (supply.drop token.waiting) rest >>= fun later =>
        .ok (own ++ later)) := by
  rw [pairFrom, alive, if_neg Bool.false_ne_true]
  cases unbound : token.boundValues.isEmpty with
  | true =>
      have waits := Token.waiting_of_unbound alive unbound
      rw [waits] at enough
      rw [if_pos rfl, if_neg (Nat.not_lt.mpr enough), waits]
      exact ⟨_, rfl⟩
  | false =>
      have waits := Token.waiting_of_bound unbound
      have exact : token.boundValues.length = token.placeholders := by
        refine fits.resolve_left fun none => ?_
        rw [none] at unbound
        cases unbound
      rw [if_neg Bool.false_ne_true, if_pos exact, waits, List.drop_zero]
      exact ⟨_, rfl⟩

/-- Tokens that get their values are passed. -/
theorem pairFrom_append_of_served {before : List Token} {supply : List Parameter} (position : Nat)
    (rest : List Token) (alive : ∀ token ∈ before, token.isDead = false)
    (served : Served supply before) :
    ∃ own, pairFrom position supply (before ++ rest) =
      (pairFrom (position + before.length) (supply.drop (demand before)) rest >>= fun later =>
        .ok (own ++ later)) := by
  induction before generalizing position supply with
  | nil =>
      refine ⟨[], ?_⟩
      rw [List.nil_append, demand_nil, List.drop_zero, List.length_nil, Nat.add_zero]
      cases pairFrom position supply rest <;> rfl
  | cons token before inductionHypothesis =>
      obtain ⟨valuesFit, enough⟩ := served
      rw [List.forall_mem_cons] at alive valuesFit
      rw [demand_cons] at enough
      obtain ⟨own, first⟩ := pairFrom_cons_of_served position (before ++ rest) alive.1 valuesFit.1
        (Nat.le_trans (Nat.le_add_right _ _) enough)
      have left : Served (supply.drop token.waiting) before :=
        ⟨valuesFit.2, by rw [List.length_drop]; omega⟩
      obtain ⟨others, later⟩ := inductionHypothesis (position + 1) alive.2 left
      have place : position + 1 + before.length = position + (token :: before).length := by
        rw [List.length_cons]
        omega
      refine ⟨own ++ others, ?_⟩
      rw [List.cons_append, first, later, place, List.drop_drop, demand_cons]
      cases pairFrom (position + (token :: before).length)
          (supply.drop (token.waiting + demand before)) rest with
      | error fault => rfl
      | ok entries => exact congrArg Except.ok (List.append_assoc own others entries).symm

/-- Tokens that get their values and use up the supply can be paired. -/
theorem exists_pairFrom {tokens : List Token} {supply : List Parameter}
    (alive : ∀ token ∈ tokens, token.isDead = false) (served : Served supply tokens)
    (used : supply.length = demand tokens) : ∃ entries, pairFrom 0 supply tokens = .ok entries := by
  obtain ⟨own, passed⟩ := pairFrom_append_of_served 0 [] alive served
  rw [List.append_nil, ← used, List.drop_length] at passed
  exact ⟨own ++ [], passed⟩

/-- A token behind others that get their values is blamed when it does not get its own. -/
theorem pairFrom_eq_error_of_served {before after : List Token} {token : Token}
    {supply : List Parameter} {fault : StateFault}
    (alive : ∀ earlier ∈ before ++ token :: after, earlier.isDead = false)
    (served : Served supply before)
    (blamed : pairFrom before.length (supply.drop (demand before)) (token :: after) = .error fault) :
    pairFrom 0 supply (before ++ token :: after) = .error fault := by
  obtain ⟨own, passed⟩ := pairFrom_append_of_served 0 (token :: after)
    (fun earlier member => alive earlier (List.mem_append_left _ member)) served
  rw [Nat.zero_add, blamed] at passed
  exact passed

/-- Tokens that cannot be paired are refused as the definition says. -/
theorem pairFrom_of_unpaired {tokens : List Token} {supply : List Parameter} {fault : StateFault}
    (alive : ∀ token ∈ tokens, token.isDead = false) (unpaired : Unpaired supply tokens fault) :
    pairFrom 0 supply tokens = .error fault := by
  cases unpaired with
  | @valueCount before after token split served misfit =>
      subst split
      have tokenAlive : token.isDead = false := alive token (by simp)
      obtain ⟨bound, different⟩ := not_or.mp misfit
      refine pairFrom_eq_error_of_served alive served ?_
      rw [pairFrom, tokenAlive, if_neg Bool.false_ne_true, if_neg (by simpa using bound),
        if_neg different]
  | @missingValue before after token split served fits few =>
      subst split
      have tokenAlive : token.isDead = false := alive token (by simp)
      have waits : token.waiting ≠ 0 := by
        have := served.enough
        omega
      have unbound : token.boundValues.isEmpty = true := by
        cases bound : token.boundValues.isEmpty with
        | true => rfl
        | false => exact absurd (Token.waiting_of_bound bound) waits
      have placeholders := Token.waiting_of_unbound tokenAlive unbound
      refine pairFrom_eq_error_of_served alive served ?_
      rw [pairFrom, tokenAlive, if_neg Bool.false_ne_true, if_pos unbound, if_pos]
      rw [List.length_drop]
      omega
  | surplusParameters served many =>
      obtain ⟨own, passed⟩ := pairFrom_append_of_served 0 [] alive served
      have left : (supply.drop (demand tokens)).isEmpty = false := by
        simp only [List.isEmpty_eq_false_iff, ne_eq, List.drop_eq_nil_iff]
        omega
      rw [List.append_nil, pairFrom, left] at passed
      exact passed

/-- A fault of later tokens is a fault behind one more token that gets its values. -/
theorem exists_unpaired_cons {token : Token} {rest : List Token} {supply : List Parameter}
    {fault : StateFault} (fits : token.ValuesFit) (enough : token.waiting ≤ supply.length)
    (unpaired : Unpaired (supply.drop token.waiting) rest fault) :
    ∃ cause, Unpaired supply (token :: rest) cause := by
  have servedCons {before : List Token} (served : Served (supply.drop token.waiting) before) :
      Served supply (token :: before) := by
    refine ⟨List.forall_mem_cons.mpr ⟨fits, served.valuesFit⟩, ?_⟩
    have later := served.enough
    rw [List.length_drop] at later
    rw [demand_cons]
    omega
  cases unpaired with
  | valueCount split served misfit =>
      exact ⟨_, .valueCount (congrArg (token :: ·) split) (servedCons served) misfit⟩
  | missingValue split served ownFits few =>
      rw [List.length_drop] at few
      refine ⟨_, .missingValue (congrArg (token :: ·) split) (servedCons served) ownFits ?_⟩
      rw [demand_cons]
      omega
  | surplusParameters served many =>
      rw [List.length_drop] at many
      refine ⟨_, .surplusParameters (servedCons served) ?_⟩
      rw [demand_cons]
      omega

/-- Tokens are paired or refused for one of the reasons. -/
theorem exists_unpaired (tokens : List Token) (supply : List Parameter) :
    (Served supply tokens ∧ supply.length = demand tokens) ∨ ∃ fault, Unpaired supply tokens fault := by
  induction tokens generalizing supply with
  | nil =>
      have served : Served supply [] := ⟨fun _ => nofun, Nat.zero_le _⟩
      rcases Nat.eq_zero_or_pos supply.length with empty | some
      · exact .inl ⟨served, empty⟩
      · exact .inr ⟨_, .surplusParameters served some⟩
  | cons token rest inductionHypothesis =>
      have nothing : Served supply [] := ⟨fun _ => nofun, Nat.zero_le _⟩
      by_cases fits : token.ValuesFit
      · by_cases enough : token.waiting ≤ supply.length
        · rcases inductionHypothesis (supply.drop token.waiting) with ⟨served, used⟩ | ⟨fault, unpaired⟩
          · rw [List.length_drop] at used
            refine .inl ⟨⟨List.forall_mem_cons.mpr ⟨fits, served.valuesFit⟩, ?_⟩, ?_⟩
            · rw [demand_cons]
              omega
            · rw [demand_cons]
              omega
          · exact .inr (exists_unpaired_cons fits enough unpaired)
        · have split : token :: rest = [] ++ token :: rest := rfl
          refine .inr ⟨_, .missingValue split nothing fits ?_⟩
          rw [demand_nil]
          omega
      · have split : token :: rest = [] ++ token :: rest := rfl
        exact .inr ⟨_, .valueCount split nothing fits⟩

/-- What stands in the way of writing a token: its table has no physical name, or its column template does
not have exactly one slot. A dead token is not written. -/
def obstacle? (named : TableRef → Except Fault String) : Token → Option Fault
  | .table reference =>
      match named reference with
      | .ok _ => none
      | .error fault => some fault
  | .columnExpression _ body =>
      let found := Template.slots body.template.toList
      if body.isAbsent || found = 1 then none else some (.state (.columnSlots body.template found))
  | _ => none

/-- A token that is not dead can be written, unless something stands in the way. -/
theorem stretches_of_obstacle? (dialect : Dialect) (named : TableRef → Except Fault String)
    {token : Token} (alive : token.isDead = false) :
    match obstacle? named token with
    | none => ∃ own, stretches dialect named token = .ok own
    | some fault => stretches dialect named token = .error fault := by
  cases token with
  | table reference =>
      rw [obstacle?, stretches]
      cases named reference with
      | ok physicalName => exact ⟨_, rfl⟩
      | error fault => rfl
  | columnExpression columnName body =>
      have present : body.isAbsent = false := alive
      rw [obstacle?, stretches, present]
      by_cases one : Template.slots body.template.toList = 1
      · simp [one]
      · simp [one]
  | _ => exact ⟨_, rfl⟩

/-- The outline of tokens that are not dead fails as the first obstacle says. -/
theorem outline_of_obstacle? (dialect : Dialect) (named : TableRef → Except Fault String)
    {tokens : List Token} (alive : ∀ token ∈ tokens, token.isDead = false) :
    match tokens.findSome? (obstacle? named) with
    | none => ∃ parts, outline dialect named tokens = .ok parts
    | some fault => outline dialect named tokens = .error fault := by
  induction tokens with
  | nil => exact ⟨[], rfl⟩
  | cons token rest inductionHypothesis =>
      rw [List.forall_mem_cons] at alive
      have own := stretches_of_obstacle? dialect named alive.1
      have later := inductionHypothesis alive.2
      rw [List.findSome?_cons, outline]
      cases obstacle : obstacle? named token with
      | some fault =>
          rw [obstacle] at own
          rw [own]
          rfl
      | none =>
          rw [obstacle] at own
          obtain ⟨parts, written⟩ := own
          rw [written, ok_bind]
          cases laterObstacle : rest.findSome? (obstacle? named) with
          | some fault =>
              rw [laterObstacle] at later
              rw [later]
              rfl
          | none =>
              rw [laterObstacle] at later
              obtain ⟨others, laterWritten⟩ := later
              rw [laterWritten]
              exact ⟨_, rfl⟩

/-- An obstacle is a table that has no physical name, or a column template. -/
theorem table_of_obstacle? {named : TableRef → Except Fault String} {token : Token} {fault : Fault}
    (obstacle : obstacle? named token = some fault) :
    (∃ reference, named reference = .error fault) ∨
      ∃ template found, fault = .state (.columnSlots template found) := by
  cases token with
  | table reference =>
      rw [obstacle?] at obstacle
      split at obstacle
      · cases obstacle
      · rename_i failed
        cases obstacle
        exact .inl ⟨reference, failed⟩
  | columnExpression columnName body =>
      rw [obstacle?] at obstacle
      split at obstacle
      · cases obstacle
      · cases obstacle
        exact .inr ⟨_, _, rfl⟩
  | _ => cases obstacle

/-- Nothing stands in the way of writing what is no operand. -/
theorem obstacle?_of_not_isOperand (named : TableRef → Except Fault String) {token : Token}
    (notOperand : token.isOperand = false) : obstacle? named token = none := by
  cases token with
  | table reference => cases notOperand
  | columnExpression columnName body =>
      rw [Token.isOperand, Bool.not_eq_false'] at notOperand
      rw [obstacle?, notOperand]
      rfl
  | _ => rfl

/-- The first obstacle is one of the operands. -/
theorem findSome?_obstacle?_filter (named : TableRef → Except Fault String) (tokens : List Token) :
    (tokens.filter Token.isOperand).findSome? (obstacle? named) =
      tokens.findSome? (obstacle? named) := by
  induction tokens with
  | nil => rfl
  | cons token rest inductionHypothesis =>
      cases operand : token.isOperand with
      | true =>
          rw [List.filter_cons_of_pos operand, List.findSome?_cons, List.findSome?_cons,
            inductionHypothesis]
      | false =>
          rw [List.filter_cons_of_neg (by simp [operand]), List.findSome?_cons,
            obstacle?_of_not_isOperand named operand, inductionHypothesis]

/-- What waits for a parameter is an operand. -/
theorem demand_filter_isOperand (tokens : List Token) :
    demand (tokens.filter Token.isOperand) = demand tokens := by
  induction tokens with
  | nil => rfl
  | cons token rest inductionHypothesis =>
      cases operand : token.isOperand with
      | true => rw [List.filter_cons_of_pos operand, demand_cons, demand_cons, inductionHypothesis]
      | false =>
          rw [List.filter_cons_of_neg (by simp [operand]), demand_cons, inductionHypothesis,
            Token.waiting_of_not_isOperand operand, Nat.zero_add]

end Statement

end SqlTemplate
