import SqlTemplate.Fault
import SqlTemplate.Melt.Scan

/-!
This file decides which tokens of a statement stay when the dead ones melt away.
-/

namespace SqlTemplate.Melt

open Nesting

/-- The imbalance of brackets as the fault of a statement. -/
def imbalanceFault : Imbalance → StateFault
  | .unmatchedClosing position => .unmatchedClosing position
  | .unclosedOpening position => .unclosedOpening position

/-- For each token, whether it stays. Only a statement with balanced brackets has an answer. -/
def survivors (tokens : List Token) : Except StateFault (List Bool) := do
  let removed ← (removedPlaces (tokens.map mark)).mapError imbalanceFault
  .ok (mask tokens.length removed)

/-- The tokens that are marked to stay, in their order. -/
def select (tokens : List Token) (kept : List Bool) : List Token :=
  ((tokens.zip kept).filter Prod.snd).map Prod.fst

/-- The statement without the tokens that do not stay. -/
def melt (tokens : List Token) : Except StateFault (List Token) := do
  let kept ← survivors tokens
  .ok (select tokens kept)

end SqlTemplate.Melt
