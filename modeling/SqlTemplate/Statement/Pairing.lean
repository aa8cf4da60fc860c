import SqlTemplate.Fault
import SqlTemplate.Parameters
import SqlTemplate.Statement.Template

/-!
This file pairs the placeholders of a statement with values, from left to right. A token with bound
values uses them; a token without takes the next parameters from the supply. Either are added to the
parameters of the statement, where they get new indices.
-/

namespace SqlTemplate.Statement

/-- The values bound to a token are named like its column. -/
def boundParameters (token : Token) : List NamedValue :=
  token.boundValues.map fun value => ⟨token.column?, value⟩

/-- A parameter from the supply keeps its own name, or else is named like the column. -/
def suppliedParameter (token : Token) (parameter : Parameter) : NamedValue :=
  ⟨parameter.name.or token.column?, parameter.value⟩

/-- The tokens from the given position on add their parameters to those that were collected. Their
placeholders must use up the supply. -/
def collectFrom (position : Nat) (supply : List Parameter) (collected : Parameters) :
    List Token → Except StateFault Parameters
  | [] => if supply.isEmpty then .ok collected else .error .surplusParameters
  | token :: rest =>
      if token.isDead then .error (.deadToken position)
      else if token.boundValues.isEmpty then
        if supply.length < token.placeholders then .error (.missingValue position)
        else
          let taken := supply.take token.placeholders
          collectFrom (position + 1) (supply.drop token.placeholders)
            (collected.pushAll (taken.map (suppliedParameter token))) rest
      else if token.boundValues.length = token.placeholders then
        collectFrom (position + 1) supply (collected.pushAll (boundParameters token)) rest
      else .error (.valueCount position token.placeholders token.boundValues.length)

/-- The parameters of all tokens. -/
def collect (supply : List Parameter) (tokens : List Token) : Except StateFault Parameters :=
  collectFrom 0 supply .empty tokens

end SqlTemplate.Statement
