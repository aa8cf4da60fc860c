import SqlTemplate.Composer.Program

/-!
This file follows a context through the changes of its caller. What one accepted change does is said once;
that a refused change does nothing, and what every reached context has in common, is derived from it.
-/

namespace SqlTemplate

namespace Context

variable {directory : Option Directory} {context : Context}

/-- A change is accepted by a context and leads to the next one. A database has to be known and must not
contradict the dialect, a dialect must not contradict the database, and parameters must not replace any. -/
inductive Accepted (directory : Option Directory) (context : Context) : Change → Context → Prop where
  | database {dialectOf? : Directory} {name : String} {dialect : Dialect}
      (present : directory = some dialectOf?) (known : dialectOf? name = some dialect)
      (agrees : ∀ earlier, context.chosenDialect = some earlier → earlier = dialect) :
      Accepted directory context (.database name)
        { context with chosenDialect := some dialect, database := some name }
  | dialect {dialect : Dialect}
      (agrees : ∀ current name, context.chosenDialect = some current →
        context.database = some name → current = dialect) :
      Accepted directory context (.dialect dialect) { context with chosenDialect := some dialect }
  | hints {hints : Hints} :
      Accepted directory context (.hints hints) { context with hints := hints }
  | parameters {parameters : Parameters}
      (replaceable : ∀ present, context.parameters = some present → present.isEmpty = true) :
      Accepted directory context (.parameters parameters)
        { context with parameters := some parameters }

/-- What the choice of an unknown database answers. -/
theorem reply_unknown {dialectOf? : Directory} {name : String} (unknown : dialectOf? name = none) :
    context.reply (some dialectOf?) (.database name) =
      (.error (.config (.unknownDatabase name)), context) := by
  rw [reply, Change.call, setDatabase]
  simp only [unknown]
  rfl

/-- What the choice of a known database answers. -/
theorem reply_known (context : Context) {dialectOf? : Directory} {name : String} {dialect : Dialect}
    (known : dialectOf? name = some dialect) :
    context.reply (some dialectOf?) (.database name) =
      match context.chosenDialect with
      | some earlier =>
          if earlier = dialect then
            (.ok (), { context with chosenDialect := some dialect, database := some name })
          else (.error (.config (.dialectMismatch earlier name dialect)), context)
      | none => (.ok (), { context with chosenDialect := some dialect, database := some name }) := by
  rw [reply, Change.call, setDatabase]
  simp only [known]
  obtain ⟨chosen, database, hints, parameters, topology⟩ := context
  cases chosen with
  | none => rfl
  | some earlier => cases earlier <;> cases dialect <;> rfl

/-- What the choice of a dialect answers. -/
theorem reply_dialect (context : Context) (directory : Option Directory) (dialect : Dialect) :
    context.reply directory (.dialect dialect) =
      match context.chosenDialect, context.database with
      | some current, some name =>
          if current = dialect then (.ok (), { context with chosenDialect := some dialect })
          else (.error (.config (.dialectMismatch dialect name current)), context)
      | _, _ => (.ok (), { context with chosenDialect := some dialect }) := by
  obtain ⟨chosen, database, hints, parameters, topology⟩ := context
  cases chosen with
  | none => rfl
  | some current =>
      cases database with
      | none => rfl
      | some name => cases current <;> cases dialect <;> rfl

/-- What the attachment of parameters answers. -/
theorem reply_parameters (context : Context) (directory : Option Directory)
    (parameters : Parameters) :
    context.reply directory (.parameters parameters) =
      match context.parameters with
      | some present =>
          if present.isEmpty then (.ok (), { context with parameters := some parameters })
          else (.error (.state .parametersPresent), context)
      | none => (.ok (), { context with parameters := some parameters }) := by
  obtain ⟨chosen, database, hints, present, topology⟩ := context
  cases present with
  | none => rfl
  | some present =>
      obtain ⟨entries⟩ := present
      cases entries <;> rfl

/-- The change is accepted and made, or it is refused and the context stays as it was. -/
inductive Decided (directory : Option Directory) (context : Context) (change : Change) : Prop where
  | accepted {next : Context} (accepted : context.Accepted directory change next)
      (answer : context.reply directory change = (.ok (), next))
  | refused {fault : Fault} (refused : ∀ next, ¬ context.Accepted directory change next)
      (answer : context.reply directory change = (.error fault, context))

theorem decided_database (context : Context) (directory : Option Directory) (name : String) :
    context.Decided directory (.database name) := by
  cases directory with
  | none =>
      refine .refused (fun next accepted => ?_) rfl
      cases accepted
      contradiction
  | some dialectOf? =>
      cases known : dialectOf? name with
      | none =>
          refine .refused (fun next accepted => ?_) (reply_unknown known)
          cases accepted with
          | database present found agrees =>
              cases present
              rw [known] at found
              cases found
      | some dialect =>
          have answer := reply_known context known
          obtain ⟨chosen, database, hints, parameters, topology⟩ := context
          cases chosen with
          | none => exact .accepted (.database rfl known nofun) answer
          | some earlier =>
              dsimp only at answer
              by_cases same : earlier = dialect
              · rw [if_pos same] at answer
                refine .accepted (.database rfl known ?_) answer
                intro _ chosen
                cases chosen
                exact same
              · rw [if_neg same] at answer
                refine .refused (fun next accepted => ?_) answer
                cases accepted with
                | database present found agrees =>
                    cases present
                    rw [known] at found
                    cases found
                    exact same (agrees earlier rfl)

theorem decided_dialect (context : Context) (directory : Option Directory) (dialect : Dialect) :
    context.Decided directory (.dialect dialect) := by
  have answer := reply_dialect context directory dialect
  obtain ⟨chosen, database, hints, parameters, topology⟩ := context
  cases chosen with
  | none => exact .accepted (.dialect nofun) answer
  | some current =>
      cases database with
      | none => exact .accepted (.dialect fun _ _ _ => nofun) answer
      | some name =>
          dsimp only at answer
          by_cases same : current = dialect
          · rw [if_pos same] at answer
            refine .accepted (.dialect ?_) answer
            intro _ _ chosen _
            cases chosen
            exact same
          · rw [if_neg same] at answer
            refine .refused (fun next accepted => ?_) answer
            cases accepted with
            | dialect agrees => exact same (agrees current name rfl rfl)

theorem decided_parameters (context : Context) (directory : Option Directory)
    (parameters : Parameters) : context.Decided directory (.parameters parameters) := by
  have answer := reply_parameters context directory parameters
  obtain ⟨chosen, database, hints, attached, topology⟩ := context
  cases attached with
  | none => exact .accepted (.parameters nofun) answer
  | some present =>
      dsimp only at answer
      by_cases empty : present.isEmpty = true
      · rw [if_pos empty] at answer
        refine .accepted (.parameters ?_) answer
        intro _ attached
        cases attached
        exact empty
      · rw [if_neg empty] at answer
        refine .refused (fun next accepted => ?_) answer
        cases accepted with
        | parameters replaceable => exact empty (replaceable present rfl)

/-- Every change is decided in one of the two ways. -/
theorem decided (context : Context) (directory : Option Directory) (change : Change) :
    context.Decided directory change := by
  cases change with
  | database name => exact context.decided_database directory name
  | dialect dialect => exact context.decided_dialect directory dialect
  | hints hints => exact .accepted .hints rfl
  | parameters parameters => exact context.decided_parameters directory parameters

/-- A change succeeds exactly when it is accepted. -/
theorem reply_fst_eq_ok_iff (change : Change) :
    (context.reply directory change).1 = .ok () ↔ ∃ next, context.Accepted directory change next := by
  cases context.decided directory change with
  | accepted accepted answer =>
      rw [answer]
      exact iff_of_true rfl ⟨_, accepted⟩
  | refused refused answer =>
      rw [answer]
      exact iff_of_false nofun fun ⟨next, accepted⟩ => refused next accepted

/-- A change that succeeds was accepted by the context that it leaves behind. -/
theorem accepted_of_reply {change : Change}
    (success : (context.reply directory change).1 = .ok ()) :
    context.Accepted directory change (context.afterIn directory change) := by
  cases context.decided directory change with
  | accepted accepted answer =>
      rw [afterIn, answer]
      exact accepted
  | refused refused answer =>
      rw [answer] at success
      cases success

/-- A change that fails leaves the context as it was. -/
theorem eq_of_reply_error {change : Change} {fault : Fault} {left : Context}
    (failed : context.reply directory change = (.error fault, left)) : left = context := by
  cases context.decided directory change with
  | accepted accepted answer =>
      rw [answer] at failed
      cases failed
  | refused refused answer =>
      rw [answer] at failed
      cases failed
      rfl

/-- What every accepted change keeps is kept by all changes, whether they fail or not. -/
theorem runIn_keeps {Kept : Context → Prop}
    (keeps : ∀ context change next, Kept context → context.Accepted directory change next → Kept next)
    (changes : List Change) (kept : Kept context) : Kept (context.runIn directory changes) := by
  induction changes generalizing context with
  | nil => exact kept
  | cons change rest inductionHypothesis =>
      have first : Kept (context.afterIn directory change) := by
        cases context.decided directory change with
        | accepted accepted answer =>
            rw [afterIn, answer]
            exact keeps context change _ kept accepted
        | refused refused answer =>
            rw [afterIn, answer]
            exact kept
      exact inductionHypothesis first

/-- A chosen database is known, and the chosen dialect is its own. -/
def Consistent (directory : Option Directory) (context : Context) : Prop :=
  ∀ name, context.database = some name → ∃ dialectOf? dialect, directory = some dialectOf? ∧
    dialectOf? name = some dialect ∧ context.chosenDialect = some dialect

theorem Consistent.next {change : Change} {next : Context}
    (consistent : context.Consistent directory) (accepted : context.Accepted directory change next) :
    next.Consistent directory := by
  cases accepted with
  | @database dialectOf? chosen dialect present known agrees =>
      intro name same
      cases same
      exact ⟨dialectOf?, dialect, present, known, rfl⟩
  | @dialect dialect agrees =>
      intro name within
      obtain ⟨dialectOf?, own, present, known, chosen⟩ := consistent name within
      obtain rfl := agrees own name chosen within
      exact ⟨dialectOf?, own, present, known, rfl⟩
  | hints => exact consistent
  | parameters replaceable => exact consistent

/-- The database is chosen, and the dialect with it. -/
def Settled (dialect : Dialect) (context : Context) : Prop :=
  context.database ≠ none ∧ context.chosenDialect = some dialect

theorem Settled.next {dialect : Dialect} {change : Change} {next : Context}
    (settled : context.Settled dialect) (accepted : context.Accepted directory change next) :
    next.Settled dialect := by
  obtain ⟨within, chosen⟩ := settled
  cases accepted with
  | database present known agrees =>
      obtain rfl := agrees dialect chosen
      exact ⟨nofun, rfl⟩
  | dialect agrees =>
      obtain ⟨name, same⟩ := Option.ne_none_iff_exists'.mp within
      obtain rfl := agrees dialect name chosen same
      exact ⟨within, rfl⟩
  | hints => exact ⟨within, chosen⟩
  | parameters replaceable => exact ⟨within, chosen⟩

theorem Settled.dialect_eq {dialect : Dialect} (settled : context.Settled dialect) :
    context.dialect = dialect := by
  rw [Context.dialect, settled.2, Option.getD_some]

theorem settled_of_accepted {name : String} {next : Context}
    (accepted : context.Accepted directory (.database name) next) :
    ∃ dialect, next.Settled dialect := by
  cases accepted with
  | database present known agrees => exact ⟨_, nofun, rfl⟩

theorem attached_of_accepted {parameters : Parameters} {next : Context}
    (accepted : context.Accepted directory (.parameters parameters) next) :
    next.parameters = some parameters := by
  cases accepted with
  | parameters replaceable => rfl

/-- Parameters that are not empty are kept by every accepted change. -/
theorem parameters_of_accepted {change : Change} {next : Context} {parameters : Parameters}
    (populated : parameters.isEmpty = false) (attached : context.parameters = some parameters)
    (accepted : context.Accepted directory change next) : next.parameters = some parameters := by
  cases accepted with
  | parameters replaceable =>
      rw [replaceable parameters attached] at populated
      cases populated
  | _ => exact attached

/-- No change exchanges the topology. -/
theorem topology_runIn (changes : List Change) :
    (context.runIn directory changes).topology = context.topology := by
  let Kept (reached : Context) : Prop := reached.topology = context.topology
  have keeps : ∀ reached change next, Kept reached → reached.Accepted directory change next →
      Kept next := by
    intro reached change next same accepted
    cases accepted <;> exact same
  exact runIn_keeps keeps changes rfl

/-- The changes of a program look the databases up in the topology of its context. -/
theorem run_eq_runIn (changes : List Change) :
    context.run changes = context.runIn context.directory changes := by
  have each (reached : Context) (same : reached.topology = context.topology) :
      reached.run changes = reached.runIn context.directory changes := by
    induction changes generalizing reached with
    | nil => rfl
    | cons change rest inductionHypothesis =>
        have own : reached.after change = reached.afterIn context.directory change := by
          rw [after, directory, same, directory]
        have kept : (reached.after change).topology = context.topology :=
          (topology_runIn [change]).trans same
        have later := inductionHypothesis (reached.after change) kept
        rw [run, List.foldl_cons, ← run, later, own]
        rfl
  exact each context rfl

end Context

/-- The change that a step makes to the context. -/
def Step.change? : Step → Option Context.Change
  | .context change => some change
  | _ => none

/-- A program changes the context of its composer by its own changes only. -/
theorem Composer.context_run (composer : Composer) (program : List Step) :
    (composer.run program).context = composer.context.run (program.filterMap Step.change?) := by
  have kept (composer : Composer) (call : ExpressionCall) (change : Expression → Expression) :
      (composer.changeLast call change).context = composer.context := by
    rw [changeLast]
    split
    · rfl
    · split <;> rfl
  induction program generalizing composer with
  | nil => rfl
  | cons step rest inductionHypothesis =>
      rw [run_cons, inductionHypothesis]
      cases step with
      | append clause => rfl
      | withoutMelting => rfl
      | nullable value => exact congrArg (Context.run · _) (kept composer _ _)
      | setNullable isAbsent => exact congrArg (Context.run · _) (kept composer _ _)
      | bind value => exact congrArg (Context.run · _) (kept composer _ _)
      | context change => rfl

/-- A program never exchanges the locator that its composer began with. -/
theorem Composer.topology_run (composer : Composer) (program : List Step) :
    (composer.run program).context.topology = composer.context.topology := by
  rw [context_run, Context.run_eq_runIn, Context.topology_runIn]

namespace Context

/-- Whatever a caller changes, in whatever order and with whatever success, the chosen database of the
context is known and the statement is written in its dialect. A change that fails leaves the context as it
was. A database is accepted when it is known and no other dialect is chosen, and then the dialect stays for
good; parameters are accepted when there are none, and then they stay for good. The contexts of programs are
reached in this way. -/
theorem context_of_changes (topology : Option Locator) (directory : Option Directory)
    (changes : List Change) :
    let fresh : Context := { topology := topology }
    let reached := fresh.runIn directory changes
    (∀ name, reached.database = some name → ∃ dialectOf?, directory = some dialectOf? ∧
      dialectOf? name = some reached.dialect) ∧
    (∀ change fault left, reached.reply directory change = (.error fault, left) → left = reached) ∧
    (∀ name, (reached.reply directory (.database name)).1 = .ok () ↔
      ∃ dialectOf? dialect, directory = some dialectOf? ∧ dialectOf? name = some dialect ∧
        ∀ earlier, reached.chosenDialect = some earlier → earlier = dialect) ∧
    (∀ parameters, (reached.reply directory (.parameters parameters)).1 = .ok () ↔
      ∀ present, reached.parameters = some present → present.isEmpty = true) ∧
    (∀ name later, (reached.reply directory (.database name)).1 = .ok () →
      (reached.runIn directory (.database name :: later)).dialect =
        (reached.afterIn directory (.database name)).dialect) ∧
    (∀ parameters later, (reached.reply directory (.parameters parameters)).1 = .ok () →
      parameters.isEmpty = false →
        (reached.runIn directory (.parameters parameters :: later)).parameters = some parameters) ∧
    (directory = topology.map Locator.dialect? → fresh.run changes = reached ∧
      ∀ program, program.filterMap Step.change? = changes →
        ((Composer.fresh topology).run program).context = reached) := by
  intro fresh reached
  have consistent : reached.Consistent directory :=
    runIn_keeps (fun _ _ _ kept accepted => kept.next accepted) changes nofun
  refine ⟨?_, ?_, ?_, ?_, ?_, ?_, ?_⟩
  · intro name within
    obtain ⟨dialectOf?, dialect, present, known, chosen⟩ := consistent name within
    exact ⟨dialectOf?, present, by rw [known, Context.dialect, chosen]; rfl⟩
  · exact fun change fault left failed => eq_of_reply_error failed
  · intro name
    rw [reply_fst_eq_ok_iff]
    constructor
    · rintro ⟨next, accepted⟩
      cases accepted with
      | database present known agrees => exact ⟨_, _, present, known, agrees⟩
    · rintro ⟨dialectOf?, dialect, present, known, agrees⟩
      exact ⟨_, .database present known agrees⟩
  · intro parameters
    rw [reply_fst_eq_ok_iff]
    constructor
    · rintro ⟨next, accepted⟩
      cases accepted with
      | parameters replaceable => exact replaceable
    · exact fun replaceable => ⟨_, .parameters replaceable⟩
  · intro name later success
    obtain ⟨dialect, settled⟩ := settled_of_accepted (accepted_of_reply success)
    have stays : Settled dialect (reached.runIn directory (.database name :: later)) :=
      runIn_keeps (fun _ _ _ kept accepted => kept.next accepted) later settled
    rw [stays.dialect_eq, settled.dialect_eq]
  · intro parameters later success populated
    have attached := attached_of_accepted (accepted_of_reply success)
    exact runIn_keeps (fun _ _ _ kept accepted => parameters_of_accepted populated kept accepted)
      later attached
  · rintro rfl
    refine ⟨run_eq_runIn changes, ?_⟩
    rintro program rfl
    rw [Composer.context_run]
    exact run_eq_runIn _

/-- A shop, a warehouse and an archive that is read by another system. -/
def threeDatabases : Directory
  | "shop" | "warehouse" => some .postgreSql
  | "archive" => some .oracle
  | _ => none

/-- The database of the shop is chosen after its dialect. What contradicts it fails, and so does a second
list of parameters. -/
def contradictions : List Change :=
  [.parameters .empty, .dialect .postgreSql, .database "archive", .database "shop",
    .dialect .oracle, .database "warehouse", .parameters (.ofList [⟨none, .integer 7⟩])]

theorem context_of_contradictions :
    let reached := ({} : Context).runIn (some threeDatabases) contradictions
    reached.database = some "warehouse" ∧ reached.dialect = .postgreSql ∧
      threeDatabases "warehouse" = some reached.dialect ∧
      ¬ (reached.reply (some threeDatabases) (.database "archive")).1 = .ok () ∧
      ¬ (reached.reply (some threeDatabases) (.parameters .empty)).1 = .ok () := by
  intro reached
  obtain ⟨known, -, accepts, attaches, -, -, -⟩ :=
    context_of_changes none (some threeDatabases) contradictions
  obtain ⟨dialectOf?, present, own⟩ := known "warehouse" rfl
  cases present
  refine ⟨rfl, rfl, own, ?_, ?_⟩
  · rw [accepts]
    rintro ⟨dialectOf?, dialect, present, found, agrees⟩
    cases present
    cases found
    cases agrees .postgreSql rfl
  · rw [attaches]
    intro replaceable
    cases replaceable _ rfl

end Context

end SqlTemplate
