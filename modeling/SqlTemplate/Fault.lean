import SqlTemplate.Dialect
import SqlTemplate.Token.Written

/-!
This file lists the causes for which a statement or a topology is refused, and words each of them
once. A locator that is not a topology words its causes itself.
-/

namespace SqlTemplate

/-- A file cannot be read for one of these reasons. -/
inductive ReadFault where
  | missing
  | notUtf8
  deriving DecidableEq, Repr

/-- The topology does not fit itself, its document, or the context. -/
inductive ConfigFault where
  | noTopology (database : String)
  | unknownDatabase (database : String)
  | dialectMismatch (wanted : Dialect) (database : String) (actual : Dialect)
  | zeroModulus (table database : String)
  | blankShardColumn (table database : String)
  | malformedDocument
  | unreadableFile (path : String) (reason : ReadFault)
  | refusedFile (path : String) (reason : ConfigFault)
  | worded (detail : String)
  deriving DecidableEq, Repr

/-- The calls that act on the expression appended last. -/
inductive ExpressionCall where
  | nullable
  | setNullable
  | bind
  deriving DecidableEq, Repr

/-- The tokens of a statement do not fit each other or the parameters. -/
inductive StateFault where
  | parametersPresent
  | noToken (call : ExpressionCall)
  | noExpression (call : ExpressionCall) (found : Token)
  | unmatchedClosing (position : Nat)
  | unclosedOpening (position : Nat)
  | deadToken (position : Nat)
  | valueCount (position placeholders values : Nat)
  | missingValue (position : Nat)
  | surplusParameters
  | columnSlots (template : String) (found : Nat)
  | worded (detail : String)
  deriving DecidableEq, Repr

/-- A table has no shard for one of these reasons. -/
inductive ShardFault where
  | unknownDatabase (database : String)
  | notSharded (database : String)
  | emptyShardId
  | shardIdRange (id modulus : Nat)
  | noInteger (value : Value)
  | noSource (column : String)
  | worded (detail : String)
  deriving DecidableEq, Repr

/-- A cause of any kind. The remainder by a modulus of zero does not exist, which only a topology
that was never validated can bring about. -/
inductive Fault where
  | config (cause : ConfigFault)
  | state (cause : StateFault)
  | shard (table : String) (cause : ShardFault)
  | zeroDivisor
  deriving DecidableEq, Repr

namespace ReadFault

/-- The reason in words. -/
def detail : ReadFault → String
  | .missing => "No such file or directory (os error 2)"
  | .notUtf8 => "stream did not contain valid UTF-8"

end ReadFault

namespace ConfigFault

/-- The cause in words. -/
def detail : ConfigFault → String
  | .noTopology database =>
      s!"cannot resolve logical database '{database}': no topology configured"
  | .unknownDatabase database => s!"unknown logical database '{database}'"
  | .dialectMismatch wanted database actual =>
      s!"dialect {wanted.name} does not match logical database '{database}' ({actual.name})"
  | .zeroModulus table database => s!"table '{table}' in '{database}': modulus must be greater than 0"
  | .blankShardColumn table database =>
      s!"table '{table}' in '{database}': shard_column must not be empty"
  | .malformedDocument => "the document does not describe a topology"
  | .unreadableFile path reason => s!"failed to read config file {path}: {reason.detail}"
  | .refusedFile path reason => s!"failed to parse config file {path}: {reason.detail}"
  | .worded detail => detail

end ConfigFault

namespace ExpressionCall

/-- The name of the call. -/
def name : ExpressionCall → String
  | .nullable => "nullable"
  | .setNullable => "set_nullable"
  | .bind => "bind"

end ExpressionCall

namespace StateFault

/-- The cause in words. -/
def detail : StateFault → String
  | .parametersPresent =>
      "parameters have already been set and populated; set them before building"
  | .noToken call => s!"`{call.name}` called with no token appended"
  | .noExpression call found =>
      s!"`{call.name}` requires the last token to be an expression, found {found.diagnostic}"
  | .unmatchedClosing position => s!"unmatched ')' at token {Text.natural position}"
  | .unclosedOpening position => s!"unclosed '(' at token {Text.natural position}"
  | .deadToken position =>
      s!"nullable expression at token {Text.natural position} must be removed by meltdown before " ++
        "rendering"
  | .valueCount position placeholders values =>
      s!"token {Text.natural position} has {Text.natural placeholders} placeholder(s) but " ++
        s!"{Text.natural values} bound value(s)"
  | .missingValue position => s!"placeholder in token {Text.natural position} has no bound value"
  | .surplusParameters => "more parameters than surviving placeholders"
  | .columnSlots template found =>
      s!"column expression template '{template}' needs exactly one " ++
        s!"\x7b\x7d placeholder, found {Text.natural found}"
  | .worded detail => detail

end StateFault

namespace ShardFault

/-- The cause in words. -/
def detail : ShardFault → String
  | .unknownDatabase database => s!"unknown logical database '{database}'"
  | .notSharded database => s!"table is not configured for sharding in '{database}'"
  | .emptyShardId => "empty shard id"
  | .shardIdRange id modulus =>
      s!"shard id {Text.natural id} out of range 0..{Text.natural modulus}"
  | .noInteger value => s!"cannot derive a shard id from value {value.plain}"
  | .noSource column =>
      s!"no shard id, shard value or value for shard column '{column}' in hints or parameters"
  | .worded detail => detail

end ShardFault

/-- The kinds of causes that a caller can tell apart. -/
inductive FaultKind where
  | config
  | state
  | shard (table : String)
  deriving DecidableEq, Repr

namespace FaultKind

/-- A message begins with the kind of its cause. -/
def message : FaultKind → (detail : String) → String
  | .config, detail => "Config error: " ++ detail
  | .state, detail => "State error: " ++ detail
  | .shard table, detail => s!"Shard resolution error on table '{table}': {detail}"

/-- The kind is that of the topology or the context. -/
def isConfig : FaultKind → Bool
  | .config => true
  | _ => false

/-- The kind is that of the tokens. -/
def isState : FaultKind → Bool
  | .state => true
  | _ => false

/-- The kind is that of a table without a shard. -/
def isShard : FaultKind → Bool
  | .shard _ => true
  | _ => false

end FaultKind

namespace Fault

/-- The kind of a cause. The missing remainder is of no kind. -/
def kind? : Fault → Option FaultKind
  | .config _ => some .config
  | .state _ => some .state
  | .shard table _ => some (.shard table)
  | .zeroDivisor => none

/-- The whole message of a cause. -/
def message : Fault → String
  | .config cause => FaultKind.config.message cause.detail
  | .state cause => FaultKind.state.message cause.detail
  | .shard table cause => (FaultKind.shard table).message cause.detail
  | .zeroDivisor => "attempt to calculate the remainder with a divisor of zero"

end Fault

end SqlTemplate
