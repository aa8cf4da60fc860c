import SqlTemplate.Melt.Role

/-!
This file says which items of a level stay by looking both ways. What stands after a place is its
outlook; of what stands before it, only a left operand counts.
-/

namespace SqlTemplate.Melt

open Nesting

/-- What the items from some place of a level on mean for an item before them. -/
structure Outlook where
  /-- The next item that counts for an operator is an operand. -/
  operandNext : Bool
  /-- An operand stands before the next keyword. -/
  operandInClause : Bool
  /-- There is an operand or a keyword that does not lead a predicate. -/
  hasContent : Bool
  deriving DecidableEq, Repr

namespace Outlook

/-- Nothing stands after the end of a level. -/
def nothing : Outlook := ⟨false, false, false⟩

/-- The outlook when an operand comes first. -/
def fromOperand : Outlook := ⟨true, true, true⟩

/-- The outlook when an item of the given role comes first. Dead items and negations let an operator
look past them; a connective stops it, and a keyword stops a lead as well. -/
def past (outlook : Outlook) : Role → Outlook
  | .operand => fromOperand
  | .dead | .negation => outlook
  | .connective => { outlook with operandNext := false }
  | .lead => { outlook with operandNext := false, operandInClause := false }
  | .keyword => ⟨false, false, true⟩

/-- The outlook when a group comes first. A group with content is an operand; one without is as
good as dead. -/
def pastGroup (outlook inner : Outlook) : Outlook :=
  if inner.hasContent then fromOperand else outlook

end Outlook

/-- The outlook on a whole level. -/
def outlook : Level Role → Outlook
  | .done => .nothing
  | .item role rest => (outlook rest).past role
  | .group inner rest => (outlook rest).pastGroup (outlook inner)

/-- A group with content is an operand of its level. -/
theorem outlook_group_of_content {inner : Level Role} (rest : Level Role)
    (content : (outlook inner).hasContent = true) :
    outlook (.group inner rest) = .fromOperand := by
  rw [outlook, Outlook.pastGroup, if_pos content]

/-- A group without content leaves the outlook as it is. -/
theorem outlook_group_of_noContent {inner : Level Role} (rest : Level Role)
    (noContent : (outlook inner).hasContent = false) :
    outlook (.group inner rest) = outlook rest := by
  rw [outlook, Outlook.pastGroup, noContent, if_neg Bool.false_ne_true]

/-- An operand that comes next stands before the next keyword, and an operand there is content of the
level. -/
structure Outlook.Coherent (outlook : Outlook) : Prop where
  inClause_of_next : outlook.operandNext = true → outlook.operandInClause = true
  content_of_inClause : outlook.operandInClause = true → outlook.hasContent = true

/-- No operand comes in a level without content. -/
theorem Outlook.Coherent.noOperand_of_noContent {outlook : Outlook} (coherent : outlook.Coherent)
    (noContent : outlook.hasContent = false) :
    outlook.operandNext = false ∧ outlook.operandInClause = false := by
  have noClause : outlook.operandInClause = false := by
    apply Bool.eq_false_iff.mpr
    intro inClause
    rw [coherent.content_of_inClause inClause] at noContent
    cases noContent
  refine ⟨?_, noClause⟩
  apply Bool.eq_false_iff.mpr
  intro next
  rw [coherent.inClause_of_next next] at noClause
  cases noClause

/-- An item in front of a coherent outlook leaves it coherent. -/
theorem Outlook.Coherent.past {outlook : Outlook} (coherent : outlook.Coherent) (role : Role) :
    (outlook.past role).Coherent := by
  obtain ⟨inClause_of_next, content_of_inClause⟩ := coherent
  cases role with
  | operand => exact ⟨fun _ => rfl, fun _ => rfl⟩
  | dead | negation => exact ⟨inClause_of_next, content_of_inClause⟩
  | connective => exact ⟨nofun, content_of_inClause⟩
  | lead | keyword => exact ⟨nofun, nofun⟩

/-- A group in front of a coherent outlook leaves it coherent. -/
theorem Outlook.Coherent.pastGroup {outlook : Outlook} (coherent : outlook.Coherent)
    (inner : Outlook) : (outlook.pastGroup inner).Coherent := by
  rw [Outlook.pastGroup]
  split
  · exact ⟨fun _ => rfl, fun _ => rfl⟩
  · exact coherent

/-- The outlook on a level is coherent. -/
theorem coherent_outlook (level : Level Role) : (outlook level).Coherent := by
  induction level with
  | done => exact ⟨nofun, nofun⟩
  | item role rest inductionHypothesis => exact inductionHypothesis.past role
  | group inner rest _ restHypothesis => exact restHypothesis.pastGroup (outlook inner)

/-- An item stays by its role, by whether an operand stands before it, and by what stands after
it. -/
def stays (operandBefore : Bool) (outlook : Outlook) : Role → Bool
  | .operand | .keyword => true
  | .dead => false
  | .connective => operandBefore && outlook.operandNext
  | .negation => outlook.operandNext
  | .lead => outlook.operandInClause

/-- The first item of a level without content does not stay. -/
theorem stays_eq_false_of_noContent (operandBefore : Bool) (role : Role) (rest : Level Role)
    (noContent : (outlook (.item role rest)).hasContent = false) :
    stays operandBefore (outlook rest) role = false := by
  have noOperand := (coherent_outlook rest).noOperand_of_noContent
  cases role with
  | operand | keyword => cases noContent
  | dead => rfl
  | connective => rw [stays, (noOperand noContent).1, Bool.and_false]
  | negation => exact (noOperand noContent).1
  | lead => exact (noOperand noContent).2

/-- An operand stands before the next item when this one is an operand, and no longer after a
keyword. -/
def operandAfter (operandBefore : Bool) : Role → Bool
  | .operand => true
  | .lead | .keyword => false
  | .dead | .connective | .negation => operandBefore

/-- For each mark of a level, whether it stays, when it is known whether an operand stands before the
level. The two brackets of a group stay when the group has content. -/
def survey (operandBefore : Bool) : Level Role → List Bool
  | .done => []
  | .item role rest =>
      stays operandBefore (outlook rest) role :: survey (operandAfter operandBefore role) rest
  | .group inner rest =>
      let live := (outlook inner).hasContent
      live :: survey false inner ++ live :: survey (operandBefore || live) rest

/-- The survey has one answer for each mark. -/
theorem length_survey (level : Level Role) (operandBefore : Bool) :
    (survey operandBefore level).length = level.flatten.length := by
  induction level generalizing operandBefore with
  | done => rfl
  | item role rest inductionHypothesis => simp [survey, Level.flatten, inductionHypothesis]
  | group inner rest innerHypothesis restHypothesis =>
      simp [survey, Level.flatten, innerHypothesis, restHypothesis]

/-- Nothing stays of a level without content. -/
theorem eq_false_of_mem_survey (level : Level Role) (operandBefore : Bool)
    (noContent : (outlook level).hasContent = false) :
    ∀ answer ∈ survey operandBefore level, answer = false := by
  induction level generalizing operandBefore with
  | done => simp [survey]
  | item role rest inductionHypothesis =>
      have noRest : (outlook rest).hasContent = false := by
        cases role <;> first | exact noContent | cases noContent
      have gone := stays_eq_false_of_noContent operandBefore role rest noContent
      intro answer member
      rw [survey, gone, List.mem_cons] at member
      obtain rfl | later := member
      · rfl
      · exact inductionHypothesis _ noRest answer later
  | group inner rest innerHypothesis restHypothesis =>
      cases content : (outlook inner).hasContent with
      | true =>
          rw [outlook_group_of_content rest content] at noContent
          cases noContent
      | false =>
          rw [outlook_group_of_noContent rest content] at noContent
          intro answer member
          simp only [survey, content, Bool.or_false, List.cons_append, List.mem_cons,
            List.mem_append] at member
          obtain rfl | within | rfl | later := member
          · rfl
          · exact innerHypothesis false content answer within
          · rfl
          · exact restHypothesis operandBefore noContent answer later

end SqlTemplate.Melt
