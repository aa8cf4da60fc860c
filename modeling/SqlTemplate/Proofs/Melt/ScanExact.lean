import SqlTemplate.Melt.Survival
import SqlTemplate.Proofs.Melt.Survey

/-!
This file proves that the scan removes exactly the places that the survey of the level refuses, and
that it fails exactly where the brackets go wrong. Over a whole level the scan changes only its own
scope, and an operator that still waits is removed when the outlook on the level has no operand for it.
-/

namespace SqlTemplate.Melt

open Nesting

/-- The place is refused by the answers that begin at the position. -/
def Refused (position : Nat) (answers : List Bool) (place : Nat) : Prop :=
  ∃ offset, place = position + offset ∧ answers[offset]? = some false

theorem refused_nil (position place : Nat) : ¬ Refused position [] place := by
  rintro ⟨offset, -, refused⟩
  simp at refused

theorem refused_cons (position : Nat) (answer : Bool) (answers : List Bool) (place : Nat) :
    Refused position (answer :: answers) place ↔
      (answer = false ∧ place = position) ∨ Refused (position + 1) answers place := by
  constructor
  · rintro ⟨offset, located, refused⟩
    cases offset with
    | zero => exact .inl ⟨by simpa using refused, located⟩
    | succ offset => exact .inr ⟨offset, by omega, by simpa using refused⟩
  · rintro (⟨refused, located⟩ | ⟨offset, located, refused⟩)
    · exact ⟨0, located, by simp [refused]⟩
    · exact ⟨offset + 1, by omega, by simpa using refused⟩

theorem refused_append (position : Nat) (first second : List Bool) (place : Nat) :
    Refused position (first ++ second) place ↔
      Refused position first place ∨ Refused (position + first.length) second place := by
  induction first generalizing position with
  | nil => simp [refused_nil]
  | cons answer rest inductionHypothesis =>
      rw [List.cons_append, refused_cons, refused_cons, inductionHypothesis, or_assoc]
      have shifted : position + 1 + rest.length = position + (answer :: rest).length := by
        simp only [List.length_cons]
        omega
      rw [shifted]

namespace Scan

/-- The places that go when nothing comes any more on the current level. -/
def gone (scan : Scan) : List Nat := scan.scope.unconfirmed ++ scan.removed

/-- An item leaves the scopes around the current one as they are. -/
theorem outer_item (scan : Scan) (position : Nat) (role : Role) :
    (scan.item position role).outer = scan.outer := by
  cases role <;> simp only [item]
  split <;> rfl

/-- An item leaves the opening bracket of the current scope where it is. -/
theorem opening_item (scan : Scan) (position : Nat) (role : Role) :
    (scan.item position role).scope.opening = scan.scope.opening := by
  cases role <;> simp only [item, Scope.confirm]
  split <;> rfl

/-- What a scan has done when it went over a whole level. -/
structure Passed (scan last : Scan) (position : Nat) (level : Level Role) : Prop where
  outer : last.outer = scan.outer
  opening : last.scope.opening = scan.scope.opening
  hasContent : last.scope.hasContent = (scan.scope.hasContent || (outlook level).hasContent)
  gone : ∀ place, place ∈ last.gone ↔
    place ∈ scan.removed ∨
      (place ∈ scan.scope.waiting ∧ (outlook level).operandNext = false) ∨
      (scan.scope.lead = some place ∧ (outlook level).operandInClause = false) ∨
      Refused position (survey scan.scope.hasOperand level) place

/-- Nothing is passed at the end of a level. -/
theorem passed_done (scan : Scan) (position : Nat) : scan.Passed scan position .done where
  outer := rfl
  opening := rfl
  hasContent := by simp [outlook, Outlook.nothing]
  gone place := by
    simp only [Scan.gone, Scope.unconfirmed, survey, refused_nil, outlook, Outlook.nothing,
      List.mem_append, Option.mem_toList, and_true, or_false]
    rw [or_comm]

/-- One item is passed before the rest of its level. -/
theorem passed_item {scan last : Scan} {position : Nat} {role : Role} {rest : Level Role}
    (passed : (scan.item position role).Passed last (position + 1) rest) :
    scan.Passed last position (.item role rest) where
  outer := by rw [passed.outer, outer_item]
  opening := by rw [passed.opening, opening_item]
  hasContent := by
    rw [passed.hasContent]
    cases role <;>
      simp only [item, Scope.confirm, outlook, Outlook.past, Outlook.fromOperand, Bool.true_or,
        Bool.or_true]
    split <;> rfl
  gone place := by
    rw [passed.gone]
    simp only [survey, refused_cons]
    cases role with
    | operand =>
        simp [item, Scope.confirm, outlook, Outlook.past, Outlook.fromOperand, stays, operandAfter]
    | dead =>
        simp only [item, outlook, Outlook.past, stays, operandAfter, List.mem_cons]
        grind
    | connective =>
        cases operandBefore : scan.scope.hasOperand with
        | true =>
            simp only [item, operandBefore, outlook, Outlook.past, stays, operandAfter,
              List.mem_append, if_true]
            grind
        | false =>
            simp only [item, operandBefore, outlook, Outlook.past, stays, operandAfter,
              List.mem_append, List.mem_cons, Bool.false_eq_true, if_false]
            grind
    | negation =>
        simp only [item, outlook, Outlook.past, stays, operandAfter, List.mem_cons]
        grind
    | lead =>
        simp only [item, Scope.unconfirmed, outlook, Outlook.past, stays, operandAfter,
          List.mem_append, Option.mem_toList]
        grind
    | keyword =>
        simp only [item, Scope.unconfirmed, outlook, Outlook.past, stays, operandAfter,
          List.mem_append, Option.mem_toList]
        grind

/-- A group is passed by way of its own scope, which its closing bracket leads out of. -/
theorem passed_group {scan within last : Scan} {position : Nat} {inner rest : Level Role}
    (entered : (scan.enter position).Passed within (position + 1) inner)
    (passed : (within.leave (position + 1 + inner.flatten.length) scan.scope scan.outer).Passed last
      (position + 1 + inner.flatten.length + 1) rest) :
    scan.Passed last position (.group inner rest) := by
  have content : within.scope.hasContent = (outlook inner).hasContent := by
    simpa [enter] using entered.hasContent
  have opening : within.scope.opening = some position := by
    simpa [enter] using entered.opening
  have gone (place : Nat) : (place ∈ within.scope.unconfirmed ∨ place ∈ within.removed) ↔
      place ∈ scan.removed ∨ Refused (position + 1) (survey false inner) place := by
    simpa [enter, Scan.gone] using entered.gone place
  have answers : position + 1 + (survey false inner).length =
      position + 1 + inner.flatten.length := by
    rw [length_survey]
  constructor
  · rw [passed.outer]
    simp only [leave]
    split <;> rfl
  · rw [passed.opening]
    simp only [leave]
    split <;> rfl
  · rw [passed.hasContent]
    simp only [leave, content, outlook, Outlook.pastGroup]
    split <;> simp_all [Scope.confirm, Outlook.fromOperand]
  · intro place
    rw [passed.gone]
    simp only [survey, List.cons_append, refused_cons, refused_append, answers]
    cases live : (outlook inner).hasContent with
    | true =>
        simp only [leave, content, live, outlook, Outlook.pastGroup, Scope.confirm,
          Outlook.fromOperand, List.mem_append, if_true, Bool.or_true]
        grind
    | false =>
        simp only [leave, content, live, opening, outlook, Outlook.pastGroup, List.mem_append,
          List.mem_cons, Option.toList_some, List.cons_append, List.nil_append, Bool.or_false,
          Bool.false_eq_true, if_false]
        grind

/-- The scan goes over a whole level, whatever comes after it. -/
theorem run_flatten_append (level : Level Role) (scan : Scan) (position : Nat) :
    ∃ last, scan.Passed last position level ∧ ∀ after,
      scan.run position (level.flatten ++ after) =
        last.run (position + level.flatten.length) after := by
  induction level generalizing scan position with
  | done => exact ⟨scan, scan.passed_done position, fun _ => rfl⟩
  | item role rest inductionHypothesis =>
      obtain ⟨last, passed, reached⟩ := inductionHypothesis (scan.item position role) (position + 1)
      refine ⟨last, passed_item passed, fun after => ?_⟩
      simp only [Level.flatten, List.cons_append, run, step, reached, List.length_cons]
      congr 1
      omega
  | group inner rest innerHypothesis restHypothesis =>
      obtain ⟨within, entered, innerReached⟩ :=
        innerHypothesis (scan.enter position) (position + 1)
      obtain ⟨last, passed, restReached⟩ := restHypothesis
        (within.leave (position + 1 + inner.flatten.length) scan.scope scan.outer)
        (position + 1 + inner.flatten.length + 1)
      refine ⟨last, passed_group entered passed, fun after => ?_⟩
      have outer : within.outer = scan.scope :: scan.outer := entered.outer
      simp only [Level.flatten, List.cons_append, List.append_assoc, run, step, innerReached,
        outer, restReached, List.length_cons, List.length_append]
      congr 1
      omega

/-- On the flat form of a level the scan removes what the survey refuses. -/
theorem mem_removedPlaces_flatten (level : Level Role) :
    ∃ removed, removedPlaces level.flatten = .ok removed ∧
      ∀ place, place ∈ removed ↔ Refused 0 (survey false level) place := by
  obtain ⟨last, passed, reached⟩ := run_flatten_append level {} 0
  have outer : last.outer = [] := passed.outer
  refine ⟨last.gone, ?_, fun place => ?_⟩
  · have whole := reached []
    rw [List.append_nil] at whole
    simp only [removedPlaces, whole, run, finish, outer, gone, bind, Except.bind]
  · simpa using passed.gone place

/-- The places of the brackets that are open, from the last one on. -/
def openPlaces (scan : Scan) : List Nat :=
  openFrom scan.scope scan.outer
where
  openFrom (scope : Scope) : List Scope → List Nat
    | [] => []
    | around :: outer => scope.opening.getD 0 :: openFrom around outer

/-- An item leaves the open brackets as they are. -/
theorem openPlaces_item (scan : Scan) (position : Nat) (role : Role) :
    (scan.item position role).openPlaces = scan.openPlaces := by
  simp only [openPlaces, outer_item]
  cases scan.outer with
  | nil => rfl
  | cons around outer => simp only [openPlaces.openFrom, opening_item]

/-- The closing bracket of a group leaves the brackets around it open. -/
theorem openPlaces_leave (scan : Scan) (position : Nat) (around : Scope) (outer : List Scope) :
    (scan.leave position around outer).openPlaces = openPlaces.openFrom around outer := by
  simp only [leave]
  split
  · cases outer <;> rfl
  · rfl

/-- A scan fails exactly where the brackets go wrong. -/
theorem finish_run (marks : List (Mark Role)) (scan : Scan) (position : Nat) :
    match imbalanceFrom position scan.openPlaces marks with
    | some imbalance => (scan.run position marks >>= finish) = .error imbalance
    | none => ∃ removed, (scan.run position marks >>= finish) = .ok removed := by
  induction marks generalizing scan position with
  | nil =>
      cases outer : scan.outer with
      | nil =>
          simp [openPlaces, outer, openPlaces.openFrom, imbalanceFrom, run, finish, bind,
            Except.bind]
      | cons around outerRest =>
          simp [openPlaces, outer, openPlaces.openFrom, imbalanceFrom, run, finish, bind,
            Except.bind]
  | cons mark rest inductionHypothesis =>
      cases mark with
      | item role =>
          have tail := inductionHypothesis (scan.item position role) (position + 1)
          rw [openPlaces_item] at tail
          simpa only [imbalanceFrom, run, step] using tail
      | opening =>
          exact inductionHypothesis (scan.enter position) (position + 1)
      | closing =>
          cases outer : scan.outer with
          | nil =>
              simp [openPlaces, outer, openPlaces.openFrom, imbalanceFrom, run, step, bind,
                Except.bind]
          | cons around outerRest =>
              have tail := inductionHypothesis (scan.leave position around outerRest) (position + 1)
              rw [openPlaces_leave] at tail
              simpa only [openPlaces, outer, openPlaces.openFrom, imbalanceFrom, run, step]
                using tail

end Scan

/-- The removal fails exactly where the brackets go wrong. -/
theorem removedPlaces_of_imbalance {marks : List (Mark Role)} {imbalance : Imbalance}
    (wrong : imbalance? marks = some imbalance) : removedPlaces marks = .error imbalance := by
  have whole := Scan.finish_run marks {} 0
  rw [show imbalanceFrom 0 (Scan.openPlaces {}) marks = some imbalance from wrong] at whole
  exact whole

/-- Places are unmarked one after the other. -/
theorem getElem?_foldl_unmark (removed : List Nat) (kept : Array Bool) (place : Nat) :
    (removed.foldl (fun kept place => kept.setIfInBounds place false) kept)[place]? =
      kept[place]?.map fun answer => answer && decide (place ∉ removed) := by
  induction removed generalizing kept with
  | nil => simp
  | cons first rest inductionHypothesis =>
      rw [List.foldl_cons, inductionHypothesis, Array.getElem?_setIfInBounds]
      by_cases same : first = place
      · by_cases inside : first < kept.size <;> simp_all
      · simp [same, Ne.symm same]

/-- Each removed place is unmarked, and every other place stays marked. -/
theorem getElem?_mask (size : Nat) (removed : List Nat) (place : Nat) :
    (mask size removed)[place]? =
      if place < size then some (decide (place ∉ removed)) else none := by
  rw [mask, Array.getElem?_toList, getElem?_foldl_unmark, Array.getElem?_replicate]
  split <;> simp

/-- The mask has one answer for each place. -/
theorem length_mask (size : Nat) (removed : List Nat) : (mask size removed).length = size := by
  have each (place : Nat) : (mask size removed).length ≤ place ↔ size ≤ place := by
    rw [← List.getElem?_eq_none_iff, getElem?_mask]
    by_cases inside : place < size
    · simp [inside]
    · simp [inside, Nat.le_of_not_lt inside]
  exact Nat.le_antisymm ((each size).mpr (Nat.le_refl _)) ((each _).mp (Nat.le_refl _))

/-- One more removed place is one more refusal in the mask. -/
theorem mask_cons (size place : Nat) (removed : List Nat) :
    mask size (place :: removed) = (mask size removed).set place false := by
  apply List.ext_getElem?
  intro other
  rw [getElem?_mask, List.getElem?_set, getElem?_mask, length_mask]
  by_cases same : place = other
  · simp [same]
  · simp [same, Ne.symm same]

/-- The scan keeps exactly what the survey keeps. -/
theorem survivors_flatten {tokens : List Token} {level : Level Role}
    (flat : tokens.map mark = level.flatten) : survivors tokens = .ok (survey false level) := by
  obtain ⟨removed, found, member⟩ := Scan.mem_removedPlaces_flatten level
  have size : tokens.length = (survey false level).length := by
    rw [length_survey, ← flat, List.length_map]
  have same : mask tokens.length removed = survey false level := by
    apply List.ext_getElem?
    intro place
    rw [getElem?_mask, size]
    have refused : place ∈ removed ↔ (survey false level)[place]? = some false := by
      rw [member]
      exact ⟨fun ⟨offset, located, answer⟩ => by simpa [located] using answer,
        fun answer => ⟨place, by simp, answer⟩⟩
    by_cases inside : place < (survey false level).length
    · rw [if_pos inside, List.getElem?_eq_getElem inside]
      rw [List.getElem?_eq_getElem inside] at refused
      cases answer : (survey false level)[place] <;> simp_all
    · rw [if_neg inside, List.getElem?_eq_none (by omega)]
  rw [survivors, flat, found]
  exact congrArg Except.ok same

/-- With brackets that go wrong no token has an answer. -/
theorem survivors_of_imbalance {tokens : List Token} {imbalance : Imbalance}
    (wrong : imbalance? (tokens.map mark) = some imbalance) :
    survivors tokens = .error (imbalanceFault imbalance) := by
  rw [survivors, removedPlaces_of_imbalance wrong]
  rfl

end SqlTemplate.Melt
