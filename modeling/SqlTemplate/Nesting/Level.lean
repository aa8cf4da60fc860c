/-!
This file reads a flat list with brackets as nested levels. A level holds its items from left to
right, and a bracket pair is one item of the level around it. Every list whose brackets are
balanced is the flat form of exactly the level that is read from it.
-/

namespace SqlTemplate.Nesting

/-- A place of a flat list is a bracket or an item. -/
inductive Mark (Item : Type) where
  | opening
  | closing
  | item (content : Item)
  deriving DecidableEq, Repr

/-- A level ends, or begins with an item, or begins with a group that is a level itself. -/
inductive Level (Item : Type) where
  | done
  | item (content : Item) (rest : Level Item)
  | group (inner rest : Level Item)
  deriving DecidableEq, Repr

variable {Item : Type}

namespace Level

/-- The flat form of a level. -/
def flatten : Level Item → List (Mark Item)
  | done => []
  | item content rest => .item content :: rest.flatten
  | group inner rest => .opening :: inner.flatten ++ .closing :: rest.flatten

/-- One level is continued by another. -/
def append : Level Item → Level Item → Level Item
  | done, next => next
  | item content rest, next => item content (rest.append next)
  | group inner rest, next => group inner (rest.append next)

theorem append_done (level : Level Item) : level.append done = level := by
  induction level with
  | done => rfl
  | item content rest inductionHypothesis => simp [append, inductionHypothesis]
  | group inner rest _ restHypothesis => simp [append, restHypothesis]

theorem flatten_append (level next : Level Item) :
    (level.append next).flatten = level.flatten ++ next.flatten := by
  induction level with
  | done => rfl
  | item content rest inductionHypothesis => simp [append, flatten, inductionHypothesis]
  | group inner rest _ restHypothesis => simp [append, flatten, restHypothesis]

/-- The marks are read from the last to the first. The second part holds, from the inside out, the
levels around the first mark that were left by a closing bracket. An opening bracket without a
partner opens a group up to the end. -/
def read : List (Mark Item) → Level Item × List (Level Item)
  | [] => (done, [])
  | .item content :: rest => (item content (read rest).1, (read rest).2)
  | .closing :: rest => (done, (read rest).1 :: (read rest).2)
  | .opening :: rest =>
      match (read rest).2 with
      | [] => (group (read rest).1 done, [])
      | around :: outer => (group (read rest).1 around, outer)

@[simp] theorem read_nil : read ([] : List (Mark Item)) = (done, []) := rfl

@[simp] theorem read_item (content : Item) (rest : List (Mark Item)) :
    read (.item content :: rest) = (item content (read rest).1, (read rest).2) := rfl

@[simp] theorem read_closing (rest : List (Mark Item)) :
    read (.closing :: rest) = (done, (read rest).1 :: (read rest).2) := rfl

/-- The flat form of a level is read as that level, in front of what follows it. -/
theorem read_flatten_append (level : Level Item) (after : List (Mark Item)) :
    read (level.flatten ++ after) = (level.append (read after).1, (read after).2) := by
  induction level generalizing after with
  | done => rfl
  | item content rest inductionHypothesis =>
      simp [flatten, append, inductionHypothesis]
  | group inner rest innerHypothesis restHypothesis =>
      have closed : read (inner.flatten ++ .closing :: (rest.flatten ++ after)) =
          (inner, rest.append (read after).1 :: (read after).2) := by
        rw [innerHypothesis, read_closing, restHypothesis]
        congr 1
        exact append_done inner
      simp only [flatten, append, List.cons_append, List.append_assoc, read, closed]

/-- A level is read back from its flat form. -/
theorem read_flatten (level : Level Item) : read level.flatten = (level, []) := by
  have whole := read_flatten_append level []
  simpa [append_done] using whole

end Level

end SqlTemplate.Nesting
