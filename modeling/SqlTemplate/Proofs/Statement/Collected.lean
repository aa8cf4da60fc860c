import SqlTemplate.Statement.Pairing

/-!
This file takes the parameters of a statement apart. Which values the tokens bring can be said without the
parameters that were collected before; collecting adds them one after the other and gives them their indices.
-/

namespace SqlTemplate.Statement

/-- The named values of the tokens from the given position on, when their placeholders use up the supply. -/
def pairFrom (position : Nat) (supply : List Parameter) :
    List Token → Except StateFault (List NamedValue)
  | [] => if supply.isEmpty then .ok [] else .error .surplusParameters
  | token :: rest =>
      if token.isDead then .error (.deadToken position)
      else if token.boundValues.isEmpty then
        if supply.length < token.placeholders then .error (.missingValue position)
        else do
          let later ← pairFrom (position + 1) (supply.drop token.placeholders) rest
          .ok ((supply.take token.placeholders).map (suppliedParameter token) ++ later)
      else if token.boundValues.length = token.placeholders then do
        let later ← pairFrom (position + 1) supply rest
        .ok (boundParameters token ++ later)
      else .error (.valueCount position token.placeholders token.boundValues.length)

/-- The values of one token are added before those of the later tokens. -/
theorem map_pushAll_bind (collected : Parameters) (own : List NamedValue)
    (outcome : Except StateFault (List NamedValue)) :
    (outcome >>= fun later => .ok (own ++ later)).map collected.pushAll =
      outcome.map (collected.pushAll own).pushAll := by
  cases outcome with
  | error fault => rfl
  | ok later => exact congrArg Except.ok (collected.pushAll_append own later)

/-- The values of the tokens are added to those that were collected. -/
theorem collectFrom_eq (position : Nat) (supply : List Parameter) (collected : Parameters)
    (tokens : List Token) :
    collectFrom position supply collected tokens =
      (pairFrom position supply tokens).map collected.pushAll := by
  induction tokens generalizing position supply collected with
  | nil =>
      rw [collectFrom, pairFrom]
      split <;> rfl
  | cons token rest inductionHypothesis =>
      rw [collectFrom, pairFrom]
      by_cases dead : token.isDead = true
      · rw [if_pos dead, if_pos dead]
        rfl
      · rw [if_neg dead, if_neg dead]
        by_cases unbound : token.boundValues.isEmpty = true
        · rw [if_pos unbound, if_pos unbound]
          by_cases few : supply.length < token.placeholders
          · rw [if_pos few, if_pos few]
            rfl
          · rw [if_neg few, if_neg few, map_pushAll_bind]
            exact inductionHypothesis _ _ _
        · rw [if_neg unbound, if_neg unbound]
          by_cases exact : token.boundValues.length = token.placeholders
          · rw [if_pos exact, if_pos exact, map_pushAll_bind]
            exact inductionHypothesis _ _ _
          · rw [if_neg exact, if_neg exact]
            rfl

/-- The parameters of a statement are the list of the values that its tokens bring. -/
theorem collect_eq (supply : List Parameter) (tokens : List Token) :
    collect supply tokens = (pairFrom 0 supply tokens).map Parameters.ofList :=
  collectFrom_eq 0 supply .empty tokens

theorem collect_eq_ok_iff (supply : List Parameter) (tokens : List Token)
    (parameters : Parameters) :
    collect supply tokens = .ok parameters ↔
      ∃ entries, pairFrom 0 supply tokens = .ok entries ∧ parameters = .ofList entries := by
  rw [collect_eq]
  cases pairFrom 0 supply tokens with
  | error fault =>
      constructor
      · intro same
        cases same
      · rintro ⟨entries, same, -⟩
        cases same
  | ok entries =>
      constructor
      · intro same
        cases same
        exact ⟨entries, rfl, rfl⟩
      · rintro ⟨others, same, rfl⟩
        cases same
        rfl

end SqlTemplate.Statement
