import Mathlib.Algebra.GroupWithZero.Nat
import SqlTemplate.Proofs.Statement.Shares

/-!
This file says when the placeholders of a statement can be paired with values: no token is dead, each token
brings one parameter for each of its placeholders, and the supply is used up.
-/

namespace SqlTemplate.Statement

/-- Only tokens that are not dead can be paired. -/
theorem alive_of_pairFrom {tokens : List Token} {position : Nat} {supply : List Parameter}
    {entries : List NamedValue} (paired : pairFrom position supply tokens = .ok entries) :
    ∀ token ∈ tokens, token.isDead = false := by
  induction tokens generalizing position supply entries with
  | nil => exact fun _ => nofun
  | cons token rest inductionHypothesis =>
      obtain ⟨alive, served⟩ := pairFrom_cons_eq_ok paired
      rw [List.forall_mem_cons]
      refine ⟨Bool.eq_false_iff.mpr alive, ?_⟩
      obtain ⟨-, -, later, laterPaired, -⟩ | ⟨-, -, later, laterPaired, -⟩ := served
      · exact inductionHypothesis laterPaired
      · exact inductionHypothesis laterPaired

/-- There is one parameter for each placeholder. -/
theorem length_of_pairFrom {tokens : List Token} {position : Nat} {supply : List Parameter}
    {entries : List NamedValue} (paired : pairFrom position supply tokens = .ok entries) :
    entries.length = (tokens.map Token.placeholders).sum := by
  have alive : (tokens.filter fun token => !token.isDead) = tokens := by
    rw [List.filter_eq_self]
    intro token member
    rw [alive_of_pairFrom paired token member]
    rfl
  obtain ⟨rfl, -, exact⟩ := shares_of_pairFrom paired
  have tokensOfShares := map_fst_shares supply tokens
  rw [alive] at tokensOfShares
  have total := congrArg (fun all => (all.map Token.placeholders).sum) tokensOfShares
  rw [List.map_map] at total
  rw [List.length_flatMap, List.map_congr_left exact]
  exact total

/-- Tokens that are not dead can be paired when each brings one parameter for each of its placeholders and
nothing of the supply is left. -/
theorem pairFrom_of_shares {tokens : List Token} {supply : List Parameter} (position : Nat)
    (alive : ∀ token ∈ tokens, token.isDead = false)
    (used : (shares supply tokens).flatMap Prod.snd = supply)
    (exact : ∀ share ∈ shares supply tokens, (brought share).length = share.1.placeholders) :
    pairFrom position supply tokens = .ok ((shares supply tokens).flatMap brought) := by
  induction tokens generalizing position supply with
  | nil =>
      obtain rfl : [] = supply := used
      rfl
  | cons token rest inductionHypothesis =>
      rw [List.forall_mem_cons] at alive
      have notDead : ¬ token.isDead = true := Bool.eq_false_iff.mp alive.1
      rw [pairFrom, if_neg notDead]
      rw [shares, if_neg notDead] at used exact
      rw [shares, if_neg notDead]
      by_cases unbound : token.boundValues.isEmpty = true
      · rw [if_pos unbound] at used exact
        rw [List.forall_mem_cons, brought, if_pos unbound, List.length_map, List.length_take]
          at exact
        have size : min token.placeholders supply.length = token.placeholders := exact.1
        have enough : ¬ supply.length < token.placeholders := by omega
        have restUsed : (shares (supply.drop token.placeholders) rest).flatMap Prod.snd =
            supply.drop token.placeholders :=
          List.append_cancel_left (used.trans (List.take_append_drop _ _).symm)
        have rest := inductionHypothesis (position + 1) alive.2 restUsed exact.2
        rw [if_pos unbound, if_neg enough, rest, ok_bind, if_pos unbound, List.flatMap_cons, brought,
          if_pos unbound]
        rfl
      · rw [if_neg unbound] at used exact
        rw [List.forall_mem_cons, brought, if_neg unbound, List.length_map] at exact
        have rest := inductionHypothesis (position + 1) alive.2 used exact.2
        rw [if_neg unbound, if_pos exact.1, rest, ok_bind, if_neg unbound, List.flatMap_cons, brought,
          if_neg unbound]
        rfl

/-- Whether tokens can be paired, and with which parameters, depends on their operands only, when none of
them is dead. -/
theorem collect_of_operands {first second : List Token} {supply : List Parameter}
    {parameters : Parameters} (same : first.filter Token.isOperand = second.filter Token.isOperand)
    (alive : ∀ token ∈ second, token.isDead = false)
    (collected : collect supply first = .ok parameters) :
    collect supply second = .ok parameters := by
  rw [collect_eq_ok_iff] at collected ⊢
  obtain ⟨entries, paired, rfl⟩ := collected
  obtain ⟨brings, used, exact⟩ := shares_of_pairFrom paired
  obtain ⟨sameBrought, sameUsed, sameExact⟩ := shares_eq_of_operands supply same
  refine ⟨entries, ?_, rfl⟩
  rw [pairFrom_of_shares 0 alive (sameUsed.symm.trans used) (sameExact exact), brings, sameBrought]

end SqlTemplate.Statement
