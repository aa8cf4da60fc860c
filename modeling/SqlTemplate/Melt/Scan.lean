import SqlTemplate.Nesting.Balance
import SqlTemplate.Melt.Role

/-!
This file finds in one pass from left to right the places of a statement that melt away. Each bracket
level has a scope of its own. An operator waits in its scope until an operand confirms it, and goes
when anything else comes first.
-/

namespace SqlTemplate.Melt

open Nesting

/-- What is known of a bracket level so far. -/
structure Scope where
  /-- The place of the opening bracket, which the outermost level does not have. -/
  opening : Option Nat := none
  /-- An operand stands before the next place. -/
  hasOperand : Bool := false
  /-- There is an operand or a keyword that does not lead a predicate. -/
  hasContent : Bool := false
  /-- The operators that wait for an operand on their right. -/
  waiting : List Nat := []
  /-- The lead that waits for an operand in its predicate. -/
  lead : Option Nat := none
  deriving DecidableEq, Repr

namespace Scope

/-- An operand confirms whatever waits for it. -/
def confirm (scope : Scope) : Scope :=
  { scope with hasOperand := true, hasContent := true, waiting := [], lead := none }

/-- The places that go when no operand comes any more. -/
def unconfirmed (scope : Scope) : List Nat :=
  scope.waiting ++ scope.lead.toList

end Scope

/-- The scope of the current level, the scopes around it, and the places that go so far. -/
structure Scan where
  scope : Scope := {}
  outer : List Scope := []
  removed : List Nat := []
  deriving DecidableEq, Repr

namespace Scan

/-- The scan after an item of the current level. -/
def item (scan : Scan) (position : Nat) : Role → Scan
  | .operand => { scan with scope := scan.scope.confirm }
  | .dead => { scan with removed := position :: scan.removed }
  | .negation => { scan with scope.waiting := position :: scan.scope.waiting }
  | .connective =>
      let removed := scan.scope.waiting ++ scan.removed
      if scan.scope.hasOperand then
        { scan with scope.waiting := [position], removed := removed }
      else { scan with scope.waiting := [], removed := position :: removed }
  | .lead =>
      { scan with
        scope := { scan.scope with hasOperand := false, waiting := [], lead := some position }
        removed := scan.scope.unconfirmed ++ scan.removed }
  | .keyword =>
      { scan with
        scope := { scan.scope with
          hasOperand := false, hasContent := true, waiting := [], lead := none }
        removed := scan.scope.unconfirmed ++ scan.removed }

/-- The scan after an opening bracket. -/
def enter (scan : Scan) (position : Nat) : Scan :=
  { scan with scope := { opening := some position }, outer := scan.scope :: scan.outer }

/-- The scan after a closing bracket that leads out to the scopes given. A group with content is an
operand of the level around it; one without goes with its two brackets. -/
def leave (scan : Scan) (position : Nat) (around : Scope) (outer : List Scope) : Scan :=
  let removed := scan.scope.unconfirmed ++ scan.removed
  if scan.scope.hasContent then ⟨around.confirm, outer, removed⟩
  else ⟨around, outer, position :: scan.scope.opening.toList ++ removed⟩

/-- The scan after one more mark. -/
def step (scan : Scan) (position : Nat) : Mark Role → Except Imbalance Scan
  | .item role => .ok (scan.item position role)
  | .opening => .ok (scan.enter position)
  | .closing =>
      match scan.outer with
      | [] => .error (.unmatchedClosing position)
      | around :: outer => .ok (scan.leave position around outer)

/-- The scan after the marks from a position on. -/
def run (scan : Scan) (position : Nat) : List (Mark Role) → Except Imbalance Scan
  | [] => .ok scan
  | mark :: rest =>
      match scan.step position mark with
      | .error imbalance => .error imbalance
      | .ok next => next.run (position + 1) rest

/-- The places that go at the end of a statement, where every bracket is closed. -/
def finish (scan : Scan) : Except Imbalance (List Nat) :=
  match scan.outer with
  | [] => .ok (scan.scope.unconfirmed ++ scan.removed)
  | _ :: _ => .error (.unclosedOpening (scan.scope.opening.getD 0))

end Scan

/-- The places of a statement that go. -/
def removedPlaces (marks : List (Mark Role)) : Except Imbalance (List Nat) := do
  let last ← Scan.run {} 0 marks
  last.finish

/-- For each place, whether it is none of those that go. -/
def mask (size : Nat) (removed : List Nat) : List Bool :=
  (removed.foldl (fun kept place => kept.setIfInBounds place false) (Array.replicate size true)).toList

end SqlTemplate.Melt
