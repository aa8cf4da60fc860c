import SqlTemplate.Nesting.Level

/-!
This file finds the place where the brackets of a flat list go wrong. The brackets are balanced
exactly when there is no such place.
-/

namespace SqlTemplate.Nesting

/-- A closing bracket has no partner before it, or an opening bracket none after it. -/
inductive Imbalance where
  | unmatchedClosing (position : Nat)
  | unclosedOpening (position : Nat)
  deriving DecidableEq, Repr

variable {Item : Type}

/-- The first closing bracket without a partner, and else the last opening bracket without one.
The places of the brackets that are still open are listed from the last one on. -/
def imbalanceFrom (position : Nat) (openings : List Nat) : List (Mark Item) → Option Imbalance
  | [] => openings.head?.map .unclosedOpening
  | .item _ :: rest => imbalanceFrom (position + 1) openings rest
  | .opening :: rest => imbalanceFrom (position + 1) (position :: openings) rest
  | .closing :: rest =>
      match openings with
      | [] => some (.unmatchedClosing position)
      | _ :: outer => imbalanceFrom (position + 1) outer rest

/-- The place where the brackets go wrong. -/
def imbalance? (marks : List (Mark Item)) : Option Imbalance :=
  imbalanceFrom 0 [] marks

/-- A level keeps the open brackets around it as they are. -/
theorem imbalanceFrom_flatten_append (level : Level Item) (position : Nat) (openings : List Nat)
    (after : List (Mark Item)) :
    imbalanceFrom position openings (level.flatten ++ after) =
      imbalanceFrom (position + level.flatten.length) openings after := by
  induction level generalizing position openings after with
  | done => rfl
  | item content rest inductionHypothesis =>
      simp only [Level.flatten, List.cons_append, imbalanceFrom, List.length_cons]
      rw [inductionHypothesis]
      congr 1
      omega
  | group inner rest innerHypothesis restHypothesis =>
      simp only [Level.flatten, List.cons_append, List.append_assoc, imbalanceFrom]
      rw [innerHypothesis]
      simp only [imbalanceFrom]
      rw [restHypothesis]
      congr 1
      simp only [List.length_cons, List.length_append]
      omega

/-- The flat form of a level is balanced. -/
theorem imbalance?_flatten (level : Level Item) : imbalance? level.flatten = none := by
  have whole := imbalanceFrom_flatten_append level 0 [] []
  simpa [imbalance?, imbalanceFrom] using whole

/-- The levels around a place, each behind the closing bracket that leads out to it. -/
def flattenOuter : List (Level Item) → List (Mark Item)
  | [] => []
  | around :: outer => .closing :: around.flatten ++ flattenOuter outer

/-- When no bracket goes wrong, reading keeps every mark and leaves one level around for each
bracket that was open before. -/
theorem flatten_read_of_imbalanceFrom {marks : List (Mark Item)} {position : Nat}
    {openings : List Nat} (balanced : imbalanceFrom position openings marks = none) :
    (Level.read marks).1.flatten ++ flattenOuter (Level.read marks).2 = marks ∧
      (Level.read marks).2.length = openings.length := by
  induction marks generalizing position openings with
  | nil =>
      cases openings with
      | nil => exact ⟨rfl, rfl⟩
      | cons => simp [imbalanceFrom] at balanced
  | cons first rest inductionHypothesis =>
      cases first with
      | item content =>
          have tail := inductionHypothesis (by simpa [imbalanceFrom] using balanced)
          exact ⟨by simp [Level.flatten, tail.1], by simp [tail.2]⟩
      | closing =>
          cases openings with
          | nil => simp [imbalanceFrom] at balanced
          | cons latest outer =>
              have tail := inductionHypothesis (by simpa [imbalanceFrom] using balanced)
              exact ⟨by simp [Level.flatten, flattenOuter, tail.1], by simp [tail.2]⟩
      | opening =>
          have tail := inductionHypothesis (by simpa [imbalanceFrom] using balanced)
          cases around : (Level.read rest).2 with
          | nil => simp [around] at tail
          | cons nearest outer =>
              simp only [around, List.length_cons, flattenOuter] at tail
              constructor
              · simpa [Level.read, around, Level.flatten] using tail.1
              · simpa [Level.read, around] using tail.2

/-- Balanced marks are the flat form of the level that is read from them. -/
theorem flatten_read {marks : List (Mark Item)} (balanced : imbalance? marks = none) :
    (Level.read marks).1.flatten = marks := by
  have whole := flatten_read_of_imbalanceFrom balanced
  have noneAround : (Level.read marks).2 = [] := List.eq_nil_of_length_eq_zero whole.2
  simpa [noneAround, flattenOuter] using whole.1

end SqlTemplate.Nesting
