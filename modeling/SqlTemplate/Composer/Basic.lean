import SqlTemplate.Melt.Survival
import SqlTemplate.Statement.Basic
import SqlTemplate.Token.Clause

/-!
This file composes a statement clause by clause. Appending never fails; a call on the last expression
that finds none is remembered and refused when the statement is built.
-/

namespace SqlTemplate

/-- The tokens so far, the context they are built in, whether dead tokens melt away, and the first
misuse. -/
structure Composer where
  tokens : List Token := []
  context : Context := {}
  melts : Bool := true
  misuse : Option StateFault := none

namespace Composer

/-- A fresh composer finds databases and shards by the locator of the topology, if there is one. -/
def fresh (topology : Option Locator) : Composer :=
  { context := { topology := topology } }

/-- Dead tokens stay, and a statement with one is refused. -/
def withoutMelting (composer : Composer) : Composer :=
  { composer with melts := false }

/-- A clause is appended. -/
def append (composer : Composer) (clause : Clause) : Composer :=
  { composer with tokens := composer.tokens ++ clause.spelled }

/-- The first misuse is remembered. -/
def recordMisuse (composer : Composer) (misuse : StateFault) : Composer :=
  { composer with misuse := composer.misuse.or (some misuse) }

/-- The expression appended last is changed. A token that was left out has nothing to change. -/
def changeLast (composer : Composer) (call : ExpressionCall)
    (change : Expression → Expression) : Composer :=
  match composer.tokens.getLast? with
  | none => composer.recordMisuse (.noToken call)
  | some last =>
      if last.isExpression then
        { composer with tokens := composer.tokens.dropLast ++ [last.mapExpression change] }
      else composer.recordMisuse (.noExpression call last)

/-- A value that is present is bound to the last expression, which is absent without a value. -/
def nullable (composer : Composer) (value : Option Value) : Composer :=
  composer.changeLast .nullable fun expression => expression.whenPresent value

/-- The last expression is marked as absent or as present. -/
def setNullable (composer : Composer) (isAbsent : Bool) : Composer :=
  composer.changeLast .setNullable fun expression => expression.setAbsent isAbsent

/-- A value is bound to the next placeholder of the last expression. -/
def bind (composer : Composer) (value : Value) : Composer :=
  composer.changeLast .bind fun expression => expression.bind value

/-- The tokens that are rendered. -/
def finalTokens (composer : Composer) : Except StateFault (List Token) :=
  if composer.melts then Melt.melt composer.tokens else .ok composer.tokens

/-- The statement is built, unless the composer was misused. -/
def build (composer : Composer) : Except Fault Statement :=
  match composer.misuse with
  | some misuse => .error (.state misuse)
  | none => do
      let tokens ← composer.finalTokens.mapError .state
      Statement.render composer.context tokens

end Composer

end SqlTemplate
