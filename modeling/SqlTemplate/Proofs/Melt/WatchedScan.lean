import SqlTemplate.Proofs.Melt.Brackets
import SqlTemplate.Proofs.Outcome

/-!
This file watches every access of the scan. The scopes lie on one stack, which is read from its top, and the
answers lie in one list, in which each refusal is written at once. A watched scan stops when the stack is empty
or a place lies outside the list. It never does, so that it finds what the scan finds.
-/

namespace SqlTemplate.Melt

open Nesting

/-- A watched scan stops at an access that fails, or with the fault of the statement. -/
inductive Stop where
  | noScope
  | outside (place : Nat)
  | fault (fault : StateFault)
  deriving DecidableEq, Repr

/-- The scopes from the current one outwards, and for each token whether it stays so far. -/
structure Watched where
  scopes : List Scope := [{}]
  answers : List Bool
  deriving DecidableEq, Repr

namespace Watched

/-- The scope on the top of the stack, and the scopes below it. -/
def current : List Scope → Except Stop (Scope × List Scope)
  | [] => .error .noScope
  | scope :: outer => .ok (scope, outer)

/-- The token at the place goes. -/
def refuse (answers : List Bool) (place : Nat) : Except Stop (List Bool) :=
  if place < answers.length then .ok (answers.set place false) else .error (.outside place)

/-- The tokens at the places go, the first of the places at last. -/
def refuseAll (answers : List Bool) : List Nat → Except Stop (List Bool)
  | [] => .ok answers
  | place :: rest => do
      let later ← refuseAll answers rest
      refuse later place

/-- The watched scan after an item of the current level. -/
def item (watched : Watched) (position : Nat) : Role → Except Stop Watched
  | .operand => do
      let (scope, outer) ← current watched.scopes
      .ok { watched with scopes := scope.confirm :: outer }
  | .dead => do
      let answers ← refuse watched.answers position
      .ok { watched with answers := answers }
  | .negation => do
      let (scope, outer) ← current watched.scopes
      .ok { watched with scopes := { scope with waiting := position :: scope.waiting } :: outer }
  | .connective => do
      let (scope, outer) ← current watched.scopes
      let answers ← refuseAll watched.answers scope.waiting
      if scope.hasOperand then .ok ⟨{ scope with waiting := [position] } :: outer, answers⟩
      -- Without an operand in front of it the connective goes as well.
      else do
        let without ← refuse answers position
        .ok ⟨{ scope with waiting := [] } :: outer, without⟩
  | .lead => do
      let (scope, outer) ← current watched.scopes
      let answers ← refuseAll watched.answers scope.unconfirmed
      .ok ⟨{ scope with hasOperand := false, waiting := [], lead := some position } :: outer, answers⟩
  | .keyword => do
      let (scope, outer) ← current watched.scopes
      let answers ← refuseAll watched.answers scope.unconfirmed
      let next := { scope with hasOperand := false, hasContent := true, waiting := [], lead := none }
      .ok ⟨next :: outer, answers⟩

/-- The watched scan after an opening bracket. -/
def enter (watched : Watched) (position : Nat) : Watched :=
  { watched with scopes := { opening := some position } :: watched.scopes }

/-- The watched scan after a closing bracket. The outermost scope is never taken off the stack. -/
def leave (watched : Watched) (position : Nat) : Except Stop Watched :=
  if watched.scopes.length = 1 then .error (.fault (.unmatchedClosing position))
  else do
    let (scope, outer) ← current watched.scopes
    let answers ← refuseAll watched.answers scope.unconfirmed
    -- A group with content is an operand of the scope around it.
    if scope.hasContent then do
      let (around, outermost) ← current outer
      .ok ⟨around.confirm :: outermost, answers⟩
    else do
      let opened ← refuseAll answers scope.opening.toList
      let closed ← refuse opened position
      .ok ⟨outer, closed⟩

/-- The watched scan after one more mark. -/
def step (watched : Watched) (position : Nat) : Mark Role → Except Stop Watched
  | .item role => watched.item position role
  | .opening => .ok (watched.enter position)
  | .closing => watched.leave position

/-- The watched scan after the marks from a position on. -/
def run (watched : Watched) (position : Nat) : List (Mark Role) → Except Stop Watched
  | [] => .ok watched
  | mark :: rest => do
      let next ← watched.step position mark
      next.run (position + 1) rest

/-- The answers at the end of a statement. -/
def finish (watched : Watched) : Except Stop (List Bool) := do
  let (scope, outer) ← current watched.scopes
  if outer.isEmpty then refuseAll watched.answers scope.unconfirmed
  else .error (.fault (.unclosedOpening (scope.opening.getD 0)))

end Watched

/-- For each token, whether it stays, when every access is watched. -/
def watchedSurvivors (tokens : List Token) : Except Stop (List Bool) := do
  let last ← Watched.run { answers := List.replicate tokens.length true } 0 (tokens.map mark)
  last.finish

namespace Watched

theorem refuse_mask {size place : Nat} (inside : place < size) (removed : List Nat) :
    refuse (mask size removed) place = .ok (mask size (place :: removed)) := by
  rw [refuse, length_mask, if_pos inside, mask_cons]

/-- Places within the statement are refused. -/
theorem refuseAll_mask {size : Nat} {places : List Nat} (inside : ∀ place ∈ places, place < size)
    (removed : List Nat) :
    refuseAll (mask size removed) places = .ok (mask size (places ++ removed)) := by
  induction places with
  | nil => rfl
  | cons place rest inductionHypothesis =>
      obtain ⟨placeInside, restInside⟩ := List.forall_mem_cons.mp inside
      rw [refuseAll, inductionHypothesis restInside, ok_bind, refuse_mask placeInside,
        List.cons_append]

end Watched

/-- Every place that is kept in the scope stands before the limit. -/
structure Scope.Within (limit : Nat) (scope : Scope) : Prop where
  opening : ∀ place ∈ scope.opening, place < limit
  unconfirmed : ∀ place ∈ scope.unconfirmed, place < limit

/-- Every place that is kept in a scope stands before the limit. -/
def Scan.Within (limit : Nat) (scan : Scan) : Prop :=
  ∀ scope ∈ scan.scope :: scan.outer, scope.Within limit

/-- The scan as it is watched over a statement of the given size. -/
def Scan.watched (size : Nat) (scan : Scan) : Watched where
  scopes := scan.scope :: scan.outer
  answers := mask size scan.removed

namespace Scope

variable {scope : Scope} {limit : Nat}

theorem Within.mono (within : scope.Within limit) {later : Nat} (above : limit ≤ later) :
    scope.Within later :=
  ⟨fun place member => Nat.lt_of_lt_of_le (within.opening place member) above,
    fun place member => Nat.lt_of_lt_of_le (within.unconfirmed place member) above⟩

/-- The operators that wait stand before the limit. -/
theorem Within.waiting (within : scope.Within limit) : ∀ place ∈ scope.waiting, place < limit :=
  fun place member => within.unconfirmed place (List.mem_append_left _ member)

/-- Nothing waits in a scope that is confirmed. -/
theorem Within.confirm (within : scope.Within limit) : scope.confirm.Within limit :=
  ⟨within.opening, by simp [Scope.confirm, Scope.unconfirmed]⟩

end Scope

namespace Scan

variable {scan : Scan} {position size : Nat}

/-- An item is watched without a stop. -/
theorem watched_item (within : scan.Within position) (inside : position < size) (role : Role) :
    (scan.watched size).item position role = .ok ((scan.item position role).watched size) := by
  have scopeWithin := (within scan.scope List.mem_cons_self).mono (Nat.le_of_lt inside)
  have waiting := Watched.refuseAll_mask scopeWithin.waiting scan.removed
  have unconfirmed := Watched.refuseAll_mask scopeWithin.unconfirmed scan.removed
  cases role with
  | operand | negation => rfl
  | dead =>
      simp only [Watched.item, watched, Watched.refuse_mask inside, ok_bind]
      rfl
  | connective =>
      simp only [Watched.item, watched, Watched.current, ok_bind, waiting, item]
      split
      · rfl
      · rw [Watched.refuse_mask inside, ok_bind]
  | lead | keyword =>
      simp only [Watched.item, watched, Watched.current, ok_bind, unconfirmed]
      rfl

/-- A closing bracket that leads out to a scope is watched without a stop. -/
theorem watched_leave (within : scan.Within position) (inside : position < size)
    {around : Scope} {outer : List Scope} (leads : scan.outer = around :: outer) :
    (scan.watched size).leave position = .ok ((scan.leave position around outer).watched size) := by
  have scopeWithin := (within scan.scope List.mem_cons_self).mono (Nat.le_of_lt inside)
  have unconfirmed := Watched.refuseAll_mask scopeWithin.unconfirmed scan.removed
  have openingInside : ∀ place ∈ scan.scope.opening.toList, place < size :=
    fun place member => scopeWithin.opening place (Option.mem_toList.mp member)
  have opening := Watched.refuseAll_mask openingInside (scan.scope.unconfirmed ++ scan.removed)
  have notOutermost : ¬ (scan.scope :: scan.outer).length = 1 := by simp [leads]
  rw [Watched.leave, watched, if_neg notOutermost]
  simp only [Watched.current, ok_bind, unconfirmed, leads]
  cases content : scan.scope.hasContent with
  | true => simp [leave, content, watched]
  | false => simp [leave, content, watched, ok_bind, opening, Watched.refuse_mask inside]

/-- One more mark is watched without a stop, unless it is a closing bracket without a partner. -/
theorem watched_step (within : scan.Within position) (inside : position < size)
    (mark : Mark Role) :
    (scan.watched size).step position mark =
      ((scan.step position mark).mapError fun imbalance => .fault (imbalanceFault imbalance)).map
        (Scan.watched size) := by
  cases mark with
  | item role => exact watched_item within inside role
  | opening => rfl
  | closing =>
      rw [step, Watched.step]
      cases leads : scan.outer with
      | nil => simp [Watched.leave, watched, leads]; rfl
      | cons around outer => exact watched_leave within inside leads

/-- Of an item only its own place is kept. -/
theorem mem_unconfirmed_item {place : Nat} {role : Role}
    (member : place ∈ (scan.item position role).scope.unconfirmed) :
    place = position ∨ place ∈ scan.scope.unconfirmed := by
  cases role with
  | operand => simp [item, Scope.confirm, Scope.unconfirmed] at member
  | dead => exact .inr member
  | negation => simpa [item, Scope.unconfirmed, or_assoc] using member
  | connective =>
      simp only [item] at member
      split at member
      · simp only [Scope.unconfirmed, List.mem_append, List.mem_singleton] at member ⊢
        exact member.imp_right .inr
      · simp only [Scope.unconfirmed, List.mem_append, List.not_mem_nil, false_or] at member ⊢
        exact .inr (.inr member)
  | lead => exact .inl (by simpa [item, Scope.unconfirmed] using member)
  | keyword => simp [item, Scope.unconfirmed] at member

/-- After one more mark every place that is kept stands before the next position. -/
theorem within_step (within : scan.Within position) {mark : Mark Role} {next : Scan}
    (result : scan.step position mark = .ok next) : next.Within (position + 1) := by
  have each (scope : Scope) (member : scope ∈ scan.scope :: scan.outer) :
      scope.Within (position + 1) := (within scope member).mono (Nat.le_succ position)
  obtain ⟨scopeWithin, outerWithin⟩ := List.forall_mem_cons.mp each
  cases mark with
  | item role =>
      cases result
      refine List.forall_mem_cons.mpr ⟨⟨?_, fun place member => ?_⟩, ?_⟩
      · rw [opening_item]
        exact scopeWithin.opening
      · obtain rfl | before := mem_unconfirmed_item member
        · exact Nat.lt_succ_self place
        · exact scopeWithin.unconfirmed place before
      · rw [outer_item]
        exact outerWithin
  | opening =>
      cases result
      refine List.forall_mem_cons.mpr ⟨⟨?_, ?_⟩, each⟩
      · simp [enter]
      · simp [enter, Scope.unconfirmed]
  | closing =>
      rw [step] at result
      cases leads : scan.outer with
      | nil => simp [leads] at result
      | cons around outer =>
          simp only [leads, Except.ok.injEq] at result
          subst result
          rw [leads] at outerWithin
          obtain ⟨aroundWithin, restWithin⟩ := List.forall_mem_cons.mp outerWithin
          rw [leave]
          split
          · exact List.forall_mem_cons.mpr ⟨aroundWithin.confirm, restWithin⟩
          · exact outerWithin

/-- The end of a statement is watched without a stop. -/
theorem watched_finish (within : scan.Within size) :
    (scan.watched size).finish =
      (scan.finish.mapError fun imbalance => .fault (imbalanceFault imbalance)).map (mask size) := by
  have scopeWithin := within scan.scope List.mem_cons_self
  have unconfirmed := Watched.refuseAll_mask scopeWithin.unconfirmed scan.removed
  rw [Watched.finish, finish, watched, Watched.current, ok_bind]
  cases scan.outer with
  | nil => exact unconfirmed
  | cons around outer => rfl

/-- The rest of a statement is watched without a stop, up to where its brackets go wrong. -/
theorem watched_run (marks : List (Mark Role)) {scan : Scan} {position : Nat}
    (within : scan.Within position) (fits : position + marks.length = size) :
    ((scan.watched size).run position marks >>= Watched.finish) =
      ((scan.run position marks >>= finish).mapError fun imbalance =>
        .fault (imbalanceFault imbalance)).map (mask size) := by
  induction marks generalizing scan position with
  | nil =>
      rw [List.length_nil, Nat.add_zero] at fits
      subst fits
      exact watched_finish within
  -- The places kept so far stand before the position, which stands before the end.
  | cons mark rest inductionHypothesis =>
      rw [List.length_cons] at fits
      have inside : position < size := by omega
      rw [Watched.run, watched_step within inside, run]
      cases result : scan.step position mark with
      | error imbalance => rfl
      | ok next => exact inductionHypothesis (within_step within result) (by omega)

end Scan

/-- The watched scan never stops at an access: it finds what the scan finds. -/
theorem watchedSurvivors_eq (tokens : List Token) :
    watchedSurvivors tokens = (survivors tokens).mapError .fault := by
  have fresh : Scan.Within 0 {} := by
    intro scope member
    rw [List.mem_singleton.mp member]
    exact ⟨nofun, nofun⟩
  have start : Scan.watched tokens.length {} =
      { answers := List.replicate tokens.length true } := by
    simp [Scan.watched, mask]
  have watched := Scan.watched_run (tokens.map mark) fresh (by rw [Nat.zero_add, List.length_map])
  rw [start] at watched
  rw [watchedSurvivors, survivors, removedPlaces]
  refine watched.trans ?_
  cases Scan.run {} 0 (tokens.map mark) >>= Scan.finish <;> rfl

/-- The pass succeeds exactly on balanced brackets. -/
theorem exists_survivors_iff (tokens : List Token) :
    (∃ kept, survivors tokens = .ok kept) ↔ Balanced tokens := by
  constructor
  · rintro ⟨kept, result⟩
    exact balanced_of_survivors result
  · intro balanced
    obtain ⟨phrase, rfl⟩ := exists_phrase balanced
    exact ⟨_, survivors_flatten (map_mark_spelled phrase)⟩

/-- There is one answer for each token. -/
theorem length_of_survivors {tokens : List Token} {kept : List Bool}
    (result : survivors tokens = .ok kept) : kept.length = tokens.length := by
  rw [survivors, bind_eq_ok_iff] at result
  obtain ⟨removed, -, same⟩ := result
  cases same
  exact length_mask tokens.length removed

/-- The pass succeeds exactly on balanced brackets, with one answer for each token. Otherwise it blames the first
closing bracket up to which too much is closed, and else the last opening bracket without a partner. No
access of the watched pass fails on any statement. -/
theorem survivors_of_brackets (tokens : List Token) :
    ((∃ kept, survivors tokens = .ok kept) ↔ Balanced tokens) ∧
      (∀ kept, survivors tokens = .ok kept → kept.length = tokens.length) ∧
      ((∃ size, Overdrawn (tokens.take size)) →
        ∃ place, survivors tokens = .error (.unmatchedClosing place) ∧ FirstExcess tokens place) ∧
      (¬ Balanced tokens → (∀ size, ¬ Overdrawn (tokens.take size)) →
        ∃ place, survivors tokens = .error (.unclosedOpening place) ∧ LastUnclosed tokens place) ∧
      watchedSurvivors tokens = (survivors tokens).mapError .fault := by
  have blame := blame_imbalance? tokens
  refine ⟨exists_survivors_iff tokens, fun kept => length_of_survivors, ?_, ?_,
    watchedSurvivors_eq tokens⟩
  · rintro ⟨size, overdrawn⟩
    obtain ⟨before, after, balanced, rfl⟩ := exists_stray_of_overdrawn overdrawn
    exact ⟨before.length, survivors_of_imbalance (imbalance?_of_stray balanced),
      firstExcess_of_stray after balanced⟩
  · intro unbalanced nowhere
    cases wrong : imbalance? (tokens.map mark) with
    | none => exact absurd ((balanced_iff_imbalance?_eq_none tokens).mpr wrong) unbalanced
    | some imbalance =>
        rw [wrong] at blame
        cases imbalance with
        | unmatchedClosing place => exact absurd blame.overdrawn (nowhere _)
        | unclosedOpening place => exact ⟨place, survivors_of_imbalance wrong, blame.2⟩

/-- A bracket that is closed twice before another one is opened. -/
def closedTwice : List Token :=
  [.bracket .opening, .text "a", .bracket .closing, .bracket .closing, .bracket .opening]

/-- Two brackets of which only the inner one is closed. -/
def openedTwice : List Token :=
  [.keyword .condition, .bracket .opening, .omitted, .bracket .opening, .text "a",
    .bracket .closing]

/-- The second closing bracket is blamed although an opening one follows, and the first opening bracket is blamed
although it is not the last. -/
theorem survivors_of_wrongBrackets :
    (survivors closedTwice = .error (.unmatchedClosing 3) ∧ FirstExcess closedTwice 3) ∧
      survivors openedTwice = .error (.unclosedOpening 1) ∧ LastUnclosed openedTwice 1 := by
  obtain ⟨-, -, closed, -⟩ := survivors_of_brackets closedTwice
  obtain ⟨-, -, opened, unclosed, -⟩ := survivors_of_brackets openedTwice
  have overdrawn : Overdrawn (closedTwice.take 4) := by
    rw [Overdrawn]
    decide
  have closedFails : survivors closedTwice = .error (.unmatchedClosing 3) := rfl
  have openedFails : survivors openedTwice = .error (.unclosedOpening 1) := rfl
  have unbalanced : ¬ Balanced openedTwice := by
    rw [balanced_iff_imbalance?_eq_none]
    decide
  have nowhere (size : Nat) : ¬ Overdrawn (openedTwice.take size) := by
    intro excess
    obtain ⟨place, failed, -⟩ := opened ⟨size, excess⟩
    rw [openedFails] at failed
    cases failed
  obtain ⟨place, closedFailed, first⟩ := closed ⟨4, overdrawn⟩
  obtain ⟨other, openedFailed, last⟩ := unclosed unbalanced nowhere
  rw [closedFails, Except.error.injEq, StateFault.unmatchedClosing.injEq] at closedFailed
  rw [openedFails, Except.error.injEq, StateFault.unclosedOpening.injEq] at openedFailed
  subst closedFailed openedFailed
  exact ⟨⟨closedFails, first⟩, openedFails, last⟩

end SqlTemplate.Melt
