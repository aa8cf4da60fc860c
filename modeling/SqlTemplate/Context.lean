import SqlTemplate.Text.Record
import SqlTemplate.Topology.Route

/-!
This file defines what a statement is built for: its dialect and database, the hints, the
parameters of its unbound placeholders, and the locator behind which the topology lives. A dialect that
was set and the dialect of the database never disagree, and parameters that are not empty are never
replaced.
-/

namespace SqlTemplate

/-- A directory knows databases, and the dialect of each. -/
abbrev Directory := String → Option Dialect

/-- A fresh context has only a topology behind some locator, or not even that. -/
structure Context where
  chosenDialect : Option Dialect := none
  database : Option String := none
  hints : Hints := .empty
  parameters : Option Parameters := none
  topology : Option Locator := none

namespace Context

/-- Without a choice the standard dialect is used. -/
def dialect (context : Context) : Dialect :=
  context.chosenDialect.getD .standard

/-- A call fails with a cause or not, and leaves a context behind in both cases. -/
abbrev Call (Cause : Type) := ExceptT Cause (StateM Context)

/-- The directory of the topology. -/
def directory (context : Context) : Option Directory :=
  context.topology.map Locator.dialect?

/-- The database is chosen, and with it the dialect. -/
def setDatabase (directory : Option Directory) (database : String) : Call ConfigFault Unit :=
  match directory with
  | none => throw (.noTopology database)
  | some dialectOf? =>
      match dialectOf? database with
      | none => throw (.unknownDatabase database)
      | some dialect => do
          match (← get).chosenDialect with
          | some earlier =>
              if earlier ≠ dialect then throw (.dialectMismatch earlier database dialect)
          | none => pure ()
          modify fun context => { context with chosenDialect := some dialect }
          modify fun context => { context with database := some database }

/-- The dialect is chosen. With a database it can only be the one it already is. -/
def setDialect (dialect : Dialect) : Call ConfigFault Unit := do
  let context ← get
  match context.chosenDialect, context.database with
  | some current, some database =>
      if current ≠ dialect then throw (.dialectMismatch dialect database current)
  | _, _ => pure ()
  modify fun context => { context with chosenDialect := some dialect }

/-- The hints are replaced. -/
def setHints (hints : Hints) : Call Fault Unit :=
  modify fun context => { context with hints := hints }

/-- The parameters are attached, unless there are some already. -/
def setParameters (parameters : Parameters) : Call StateFault Unit := do
  match (← get).parameters with
  | some present => if !present.isEmpty then throw .parametersPresent
  | none => pure ()
  modify fun context => { context with parameters := some parameters }

/-- A caller may change a context in these ways. -/
inductive Change where
  | database (name : String)
  | dialect (dialect : Dialect)
  | hints (hints : Hints)
  | parameters (parameters : Parameters)

/-- The call that makes a change. -/
def Change.call (directory : Option Directory) : Change → Call Fault Unit
  | .database name => (setDatabase directory name).adapt .config
  | .dialect wanted => (setDialect wanted).adapt .config
  | .hints given => setHints given
  | .parameters given => (setParameters given).adapt .state

/-- The answer to a change, beside the context that it leaves behind. -/
def reply (context : Context) (directory : Option Directory) (change : Change) :
    Except Fault Unit × Context :=
  (change.call directory).run.run context

/-- The context after a change, when the databases are those of the directory. -/
def afterIn (context : Context) (directory : Option Directory) (change : Change) : Context :=
  (context.reply directory change).2

/-- The context after changes one after the other, some of which may fail. -/
def runIn (context : Context) (directory : Option Directory) (changes : List Change) : Context :=
  changes.foldl (fun reached change => reached.afterIn directory change) context

/-- A change is attempted. -/
def attempt (context : Context) (change : Change) : Except Fault Context :=
  let (answer, left) := context.reply context.directory change
  answer.map fun _ => left

/-- The context after a change, when the databases are those of its topology. -/
def after (context : Context) (change : Change) : Context :=
  context.afterIn context.directory change

/-- The context after changes one after the other. -/
def run (context : Context) (changes : List Change) : Context :=
  changes.foldl after context

/-- The parameters that wait for placeholders without a bound value. -/
def supply (context : Context) : List Parameter :=
  match context.parameters with
  | some parameters => parameters.entries
  | none => []

/-- The name under which the database system knows a table. Without a database, or for a table that
is not sharded, it is the logical name; otherwise the shard follows. -/
def physicalName (context : Context) (parameters : Parameters) (table : TableRef) :
    Except Fault String :=
  match context.topology, context.database with
  | some locator, some database =>
      if table.shard = .disabled || !locator.isSharded database table.logicalName then
        .ok table.logicalName
      else do
        let shard ← match table.shard with
          | .shardId id => locator.byId database table.logicalName id
          | .shardValue value => locator.byValue database table.logicalName value
          | _ => locator.byHints database table.logicalName context.hints parameters
        .ok (table.logicalName ++ shard)
  | _, _ => .ok table.logicalName

end Context

/-- The diagnostic form of hints. -/
def Hints.diagnostic (hints : Hints) : String :=
  Text.record "Hints"
    [("table_shard_id", Text.optional (hints.shardId.map Text.diagnosticLiteral)),
     ("table_shard_value", Text.optional (hints.shardValue.map Value.diagnostic)),
     ("shard_col_values", Text.mapping (hints.columnValues.entries.map fun entry =>
        (entry.1, entry.2.diagnostic)))]

/-- The diagnostic form of a parameter. -/
def Parameter.diagnostic (parameter : Parameter) : String :=
  Text.record "StatementParameter"
    [("index", Text.natural parameter.index),
     ("name", Text.optional (parameter.name.map Text.diagnosticLiteral)),
     ("value", parameter.value.diagnostic)]

/-- The diagnostic form of a list of parameters. -/
def Parameters.diagnostic (parameters : Parameters) : String :=
  Text.record "StatementParameters"
    [("params", Text.sequence (parameters.entries.map Parameter.diagnostic))]

/-- The diagnostic form of a context shows only whether there is a locator. -/
def Context.diagnostic (context : Context) : String :=
  Text.record "BuilderContext"
    [("dialect", Text.optional (context.chosenDialect.map Dialect.diagnostic)),
     ("logic_db_name", Text.optional (context.database.map Text.diagnosticLiteral)),
     ("hints", context.hints.diagnostic),
     ("parameters", Text.optional (context.parameters.map Parameters.diagnostic)),
     ("locator", Text.optional (context.topology.map fun _ =>
        Text.diagnosticLiteral "<dyn ShardLocator>"))]

end SqlTemplate
