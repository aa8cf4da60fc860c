import SqlTemplate.Proofs.Context.PhysicalName
import SqlTemplate.Proofs.Text.DecimalLiteral

/-!
This file follows the identifiers of shards that spell a number. The number of an identifier is compared with
the modulus only when an unsigned word holds it, and the shard keeps the spelling of its identifier.
-/

namespace SqlTemplate

namespace ShardRule

variable {rule : ShardRule} {number : Int}

/-- A modulus is a word of half the width. -/
theorem modulus_lt_shardIdLimit (rule : ShardRule) :
    rule.modulus.toNat < Topology.shardIdLimit :=
  Nat.lt_trans rule.modulus.toNat_lt (by decide)

/-- A signed word holds every number from zero up to a modulus. -/
theorem toInt_ofInt_of_lt (natural : 0 ≤ number) (below : number < rule.modulus.toNat) :
    (Int64.ofInt number).toInt = number := by
  have small := rule.modulus.toNat_lt
  have width : Int64.size = 2 ^ 64 := rfl
  rw [Int64.toInt_ofInt, width]
  apply Int.bmod_eq_of_le
  · omega
  · omega

/-- A number below the modulus is the number of its shard. -/
theorem shardOf_ofInt_of_lt (natural : 0 ≤ number) (below : number < rule.modulus.toNat) :
    rule.shardOf (Int64.ofInt number) = number.toNat := by
  rw [shardOf, toInt_ofInt_of_lt natural below, Int.emod_eq_of_lt natural below]

end ShardRule

/-- The integer view of a literal between blanks is its number, when a signed word holds it. -/
theorem Value.integerOfText?_of_literal {content : String} {number : Int}
    (literal : Text.DecimalLiteral (Text.trimLetters content.toList) number)
    (held : (Int64.ofInt number).toInt = number) :
    integerOfText? content = some (Int64.ofInt number) := by
  have inRange : (decide (Int64.minValue.toInt ≤ number) &&
      decide (number ≤ Int64.maxValue.toInt)) = true := by
    rw [← held]
    exact Bool.and_eq_true_iff.mpr
      ⟨decide_eq_true (Int64.minValue_le_toInt _), decide_eq_true (Int64.toInt_le _)⟩
  rw [integerOfText?, literal.readInteger?_eq, Option.bind_some, int64?, if_pos inRange]

namespace Topology

variable {topology : Topology} {name table : String} {database : Database} {rule : ShardRule}
  {shardId : String} {number : Int}

/-- The range check of a literal sees its number only when that lies between the modulus and the limit of an
unsigned word. -/
theorem filter_spelledNumber?_of_literal {letters : List Char} {modulus : Nat}
    (positive : 0 < modulus) (literal : Text.DecimalLiteral letters number) :
    ((spelledNumber? letters).filter fun spelled => modulus ≤ spelled) =
      if modulus ≤ number ∧ number < shardIdLimit then some number.toNat else none := by
  rw [spelledNumber?]
  rcases literal.readNatural?_eq_or with ⟨unread, notPositive⟩ | ⟨magnitude, read, rfl⟩
  · rw [unread, if_neg (by omega)]
    rfl
  · rw [read, Option.filter_filter, Option.filter_some, Int.toNat_natCast]
    have same : (decide (magnitude < shardIdLimit) && decide (modulus ≤ magnitude)) = true ↔
        (modulus : Int) ≤ magnitude ∧ (magnitude : Int) < shardIdLimit := by
      rw [Bool.and_eq_true, decide_eq_true_eq, decide_eq_true_eq]
      omega
    simp only [same]

/-- An identifier that spells a number is refused from the modulus up to the limit of an unsigned word.
Every other one names a shard by its spelling. -/
theorem byId_of_literal (found : topology.database? name = some database)
    (ruled : database.rule? table = some rule) (positive : 0 < rule.modulus.toNat)
    (literal : Text.DecimalLiteral (Text.trimLetters shardId.toList) number) :
    topology.byId name table shardId =
      if rule.modulus.toNat ≤ number ∧ number < shardIdLimit then
        .error (.shard table (.shardIdRange number.toNat rule.modulus.toNat))
      else .ok (database.separator ++ Text.trim shardId) := by
  have seen := filter_spelledNumber?_of_literal positive literal
  by_cases outside : rule.modulus.toNat ≤ number ∧ number < shardIdLimit
  · rw [if_pos outside] at seen ⊢
    obtain ⟨spelled, large⟩ := Option.filter_eq_some_iff.mp seen
    exact byId_of_large found ruled spelled (of_decide_eq_true large)
  · rw [if_neg outside] at seen ⊢
    rw [Option.filter_eq_none_iff] at seen
    exact byId_of_fits found ruled literal.ne_nil fun spelled read => by simpa using seen spelled read

/-- Whatever else the hints tell, a hinted shard is found like a named one. -/
theorem byHints_of_shardId (found : topology.database? name = some database)
    (ruled : database.rule? table = some rule) {hints : Hints}
    (hinted : hints.shardId = some shardId) (parameters : Parameters) :
    topology.byHints name table hints parameters = topology.byId name table shardId := by
  have same : hints = hints.inShard shardId := by
    rw [Hints.inShard, ← hinted]
  rw [same, byHints_inShard found ruled]

/-- A number is checked against the modulus: it names a shard only when it is below, and is refused
otherwise. -/
structure RangeChecked (table : String) (modulus : Nat) (number : Int)
    (outcome : Except Fault String) : Prop where
  below : ∀ suffix, outcome = .ok suffix → 0 ≤ number ∧ number < modulus
  refused : ¬ (0 ≤ number ∧ number < modulus) → ∃ cause, outcome = .error (.shard table cause)

/-- A check that sees only the numbers from the modulus up to a limit checks the range exactly for the natural
numbers below the limit. -/
theorem rangeChecked_seen_iff {modulus limit : Nat} (small : modulus < limit) (suffix : String)
    (cause : ShardFault) :
    RangeChecked table modulus number
        (if modulus ≤ number ∧ number < limit then .error (.shard table cause) else .ok suffix) ↔
      0 ≤ number ∧ number < limit := by
  constructor
  · rintro ⟨below, refused⟩
    split at below
    · omega
    · have inRange := below _ rfl
      omega
  · intro held
    split
    · exact ⟨nofun, fun _ => ⟨_, rfl⟩⟩
    · exact ⟨fun _ _ => by omega, fun outside => absurd (by omega) outside⟩

/-- Between blanks an identifier may spell any whole number in decimal digits. Its number is checked exactly
when an unsigned word with 64 bits holds it; a negative number or a larger one is taken for a name. A
reference that is pinned to the identifier and a hint with it have the same answer. -/
theorem rangeChecked_byId_iff (found : topology.database? name = some database)
    (ruled : database.rule? table = some rule) (positive : 0 < rule.modulus.toNat)
    (literal : Text.DecimalLiteral (Text.trimLetters shardId.toList) number) :
    (RangeChecked table rule.modulus.toNat number (topology.byId name table shardId) ↔
      0 ≤ number ∧ number < shardIdLimit) ∧
    (topology.byId name table shardId =
      if rule.modulus.toNat ≤ number ∧ number < shardIdLimit then
        .error (.shard table (.shardIdRange number.toNat rule.modulus.toNat))
      else .ok (database.separator ++ Text.trim shardId)) ∧
    (∀ hints parameters, hints.shardId = some shardId →
      topology.byHints name table hints parameters = topology.byId name table shardId) ∧
    ∀ (context : Context) (parameters : Parameters) (reference : TableRef),
      context.topology = some topology.locator → context.database = some name →
        reference.logicalName = table → reference.shard = .shardId shardId →
          context.physicalName parameters reference =
            (topology.byId name table shardId).map (table ++ ·) := by
  have answer := byId_of_literal found ruled positive literal
  refine ⟨?_, answer, fun _ parameters hinted => byHints_of_shardId found ruled hinted parameters, ?_⟩
  · rw [answer]
    exact rangeChecked_seen_iff rule.modulus_lt_shardIdLimit _ _
  · rintro context parameters reference chosen within rfl selected
    exact Context.physicalName_shardId chosen within (isSharded_of_rule found ruled) selected parameters

/-- The least number that no unsigned word holds is taken for a name, although it is far above the modulus. -/
theorem not_rangeChecked_of_largeId :
    Text.DecimalLiteral (Text.trimLetters "18446744073709551616".toList) shardIdLimit ∧
      ¬ RangeChecked "orders" 3 shardIdLimit
        (shop.byId "shop" "orders" "18446744073709551616") := by
  have literal : Text.DecimalLiteral (Text.trimLetters "18446744073709551616".toList)
      shardIdLimit := .unsigned (by decide)
  have found : shop.database? "shop" = some shopDatabase := rfl
  have ruled : shopDatabase.rule? "orders" = some ⟨"customer_id", 3⟩ := rfl
  obtain ⟨checked, -, -, -⟩ := rangeChecked_byId_iff found ruled (by decide) literal
  refine ⟨literal, fun outcome => ?_⟩
  have held := checked.mp outcome
  omega

/-- A negative number is taken for a name. -/
theorem not_rangeChecked_of_negativeId :
    shop.database? "shop" = some shopDatabase ∧
      shopDatabase.rule? "orders" = some ⟨"customer_id", 3⟩ ∧
      Text.DecimalLiteral (Text.trimLetters "-1".toList) (-1) ∧
      shop.byId "shop" "orders" "-1" = .ok "_-1" ∧
      ¬ RangeChecked "orders" 3 (-1) (shop.byId "shop" "orders" "-1") := by
  have literal : Text.DecimalLiteral (Text.trimLetters "-1".toList) (-1) :=
    .minus (by decide)
  have named : shop.byId "shop" "orders" "-1" = .ok "_-1" := by decide
  refine ⟨rfl, rfl, literal, named, fun checked => ?_⟩
  have inRange := checked.below _ named
  omega

/-- An identifier that spells a number below the modulus names a shard by its spelling, while the number as a
value and the spelling as a value lead to the shard whose name is the number without leading zeros. The names
agree exactly when the identifier is spelled like that, and two identifiers name the same shard exactly when
they are spelled alike. -/
theorem byId_eq_byValue_iff (found : topology.database? name = some database)
    (ruled : database.rule? table = some rule) (natural : 0 ≤ number)
    (below : number < rule.modulus.toNat)
    (literal : Text.DecimalLiteral (Text.trimLetters shardId.toList) number) :
    topology.byId name table shardId = .ok (database.separator ++ Text.trim shardId) ∧
    topology.byValue name table (.integer (Int64.ofInt number)) =
      .ok (database.separator ++ Text.natural number.toNat) ∧
    topology.byValue name table (.text shardId) =
      .ok (database.separator ++ Text.natural number.toNat) ∧
    (topology.byId name table shardId =
        topology.byValue name table (.integer (Int64.ofInt number)) ↔
      Text.trim shardId = Text.natural number.toNat) ∧
    ∀ (other : String) (otherNumber : Int), otherNumber < rule.modulus.toNat →
      Text.DecimalLiteral (Text.trimLetters other.toList) otherNumber →
        (topology.byId name table shardId = topology.byId name table other ↔
          Text.trim shardId = Text.trim other) := by
  have positive : 0 < rule.modulus.toNat := by omega
  have byLiteral {spelled : String} {spelledNumber : Int} (small : spelledNumber < rule.modulus.toNat)
      (spells : Text.DecimalLiteral (Text.trimLetters spelled.toList) spelledNumber) :
      topology.byId name table spelled = .ok (database.separator ++ Text.trim spelled) := by
    rw [byId_of_literal found ruled positive spells, if_neg (by omega)]
  have byView {value : Value} (view : value.integerView? = some (Int64.ofInt number)) :
      topology.byValue name table value =
        .ok (database.separator ++ Text.natural number.toNat) := by
    rw [byValue_of_view found ruled positive view, ShardRule.shardOf_ofInt_of_lt natural below]
  have held := ShardRule.toInt_ofInt_of_lt natural below
  have byNumber := byView (Value.integerView?_integer _)
  refine ⟨byLiteral below literal, byNumber, byView ?_, ?_, ?_⟩
  · exact Value.integerOfText?_of_literal literal held
  · rw [byLiteral below literal, byNumber, Except.ok.injEq, String.append_right_inj]
  · intro other otherNumber otherBelow otherLiteral
    rw [byLiteral below literal, byLiteral otherBelow otherLiteral, Except.ok.injEq,
      String.append_right_inj]

/-- Blanks around an identifier do not matter, but a sign does. -/
theorem byId_eq_byValue_of_paddedTwo :
    shop.byId "shop" "orders" " 2 " = shop.byValue "shop" "orders" (.integer 2) ∧
      shop.byId "shop" "orders" " 2 " ≠ shop.byId "shop" "orders" "+2" := by
  have padded : Text.DecimalLiteral (Text.trimLetters " 2 ".toList) 2 :=
    .unsigned (by decide)
  have signed : Text.DecimalLiteral (Text.trimLetters "+2".toList) 2 :=
    .plus (by decide)
  have found : shop.database? "shop" = some shopDatabase := rfl
  have ruled : shopDatabase.rule? "orders" = some ⟨"customer_id", 3⟩ := rfl
  obtain ⟨-, -, -, agrees, alike⟩ := byId_eq_byValue_iff found ruled (by decide) (by decide) padded
  exact ⟨agrees.mpr (by decide), fun same => absurd ((alike "+2" 2 (by decide) signed).mp same) (by decide)⟩

/-- A leading zero leads to a shard of its own. -/
theorem byId_ne_byValue_of_leadingZero :
    shop.database? "shop" = some shopDatabase ∧
      shopDatabase.rule? "orders" = some ⟨"customer_id", 3⟩ ∧
      Text.DecimalLiteral (Text.trimLetters "02".toList) 2 ∧
      shop.byId "shop" "orders" "02" = .ok "_02" ∧
      shop.byId "shop" "orders" "2" = .ok "_2" ∧
      shop.byValue "shop" "orders" (.integer 2) = .ok "_2" ∧
      shop.byValue "shop" "orders" (.text "02") = .ok "_2" := by
  have literal : Text.DecimalLiteral (Text.trimLetters "02".toList) 2 :=
    .unsigned (by decide)
  exact ⟨rfl, rfl, literal, by decide, by decide, by decide, by decide⟩

end Topology

end SqlTemplate
