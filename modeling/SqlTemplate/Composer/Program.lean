import SqlTemplate.Composer.Basic

/-!
This file defines programs: the steps by which a caller composes a statement, one after the other. A
step that changes the context may fail and then changes nothing.
-/

namespace SqlTemplate

/-- One call on a composer. -/
inductive Step where
  | append (clause : Clause)
  | withoutMelting
  | nullable (value : Option Value)
  | setNullable (isAbsent : Bool)
  | bind (value : Value)
  | context (change : Context.Change)

namespace Composer

/-- The composer after a step. -/
def after (composer : Composer) : Step → Composer
  | .append clause => composer.append clause
  | .withoutMelting => composer.withoutMelting
  | .nullable value => composer.nullable value
  | .setNullable isAbsent => composer.setNullable isAbsent
  | .bind value => composer.bind value
  | .context change => { composer with context := composer.context.after change }

/-- The composer after a program. -/
def run (composer : Composer) (program : List Step) : Composer :=
  program.foldl after composer

@[simp] theorem run_nil (composer : Composer) : composer.run [] = composer := rfl

@[simp] theorem run_cons (composer : Composer) (step : Step) (program : List Step) :
    composer.run (step :: program) = (composer.after step).run program := rfl

theorem run_append (composer : Composer) (first second : List Step) :
    composer.run (first ++ second) = (composer.run first).run second := by
  simp [run, List.foldl_append]

end Composer

end SqlTemplate
