import SqlTemplate.Proofs.Context.PhysicalName
import SqlTemplate.Proofs.Text.DecimalLiteral
import SqlTemplate.Proofs.Topology.Declaration
import SqlTemplate.Proofs.Topology.Precedence

/-!
This file says which texts are seen as numbers: the decimal literals between blanks whose number a signed word
holds. A number and a text that is seen as this number lead every table to the same shard, wherever the value
stands that tells the shard.
-/

namespace SqlTemplate

namespace Text

/-- Between blanks the text is a decimal literal of the number. -/
def Spells (content : String) (number : Int) : Prop :=
  ∃ before letters after, content.toList = before ++ letters ++ after ∧
    (∀ blank ∈ before, isBlank blank = true) ∧ (∀ blank ∈ after, isBlank blank = true) ∧
    DecimalLiteral letters number

theorem spells_iff {content : String} {number : Int} :
    Spells content number ↔ DecimalLiteral (trimLetters content.toList) number := by
  constructor
  · rintro ⟨before, letters, after, split, blankBefore, blankAfter, literal⟩
    rwa [split, trimLetters_between blankBefore literal.isBlank_eq_false blankAfter]
  · intro literal
    obtain ⟨before, after, split, blankBefore, blankAfter⟩ := exists_trimLetters content.toList
    exact ⟨before, _, after, split, blankBefore, blankAfter, literal⟩

/-- A text spells one number at most. -/
theorem Spells.unique {content : String} {number other : Int} (spells : Spells content number)
    (alsoSpells : Spells content other) : number = other := by
  have read := (spells_iff.mp spells).readInteger?_eq
  rw [(spells_iff.mp alsoSpells).readInteger?_eq] at read
  exact (Option.some.inj read).symm

/-- The decimal form of a number behind zeros. A number that is not negative may have a plus sign. -/
def paddedLetters (hasPlus : Bool) (zeros : Nat) : Int → List Char
  | .ofNat number =>
      (if hasPlus then ['+'] else []) ++ (List.replicate zeros '0' ++ naturalLetters number)
  | .negSucc number => '-' :: (List.replicate zeros '0' ++ naturalLetters (number + 1))

theorem decimalLiteral_paddedLetters (hasPlus : Bool) (zeros : Nat) (number : Int) :
    DecimalLiteral (paddedLetters hasPlus zeros number) number := by
  cases number with
  | ofNat magnitude =>
      obtain ⟨run, value⟩ := denoted_zeros_naturalLetters zeros magnitude
      have unsigned := DecimalLiteral.unsigned run
      have plus := DecimalLiteral.plus run
      rw [value] at unsigned plus
      cases hasPlus with
      | false => exact unsigned
      | true => exact plus
  | negSucc magnitude =>
      obtain ⟨run, value⟩ := denoted_zeros_naturalLetters zeros (magnitude + 1)
      have minus := DecimalLiteral.minus run
      rw [value] at minus
      exact minus

end Text

namespace Value

/-- A signed word is the number that it holds. -/
theorem int64?_eq_some_iff {number : Int} {word : Int64} :
    int64? number = some word ↔ word.toInt = number := by
  constructor
  · intro held
    rw [int64?] at held
    split at held
    · rename_i inRange
      rw [Bool.and_eq_true, decide_eq_true_eq, decide_eq_true_eq] at inRange
      cases held
      exact Int64.toInt_ofInt_of_le inRange.1 (Int.lt_add_one_of_le inRange.2)
    · cases held
  · rintro rfl
    have inRange : (decide (Int64.minValue.toInt ≤ word.toInt) &&
        decide (word.toInt ≤ Int64.maxValue.toInt)) = true :=
      Bool.and_eq_true_iff.mpr ⟨decide_eq_true word.minValue_le_toInt, decide_eq_true word.toInt_le⟩
    rw [int64?, if_pos inRange, Int64.ofInt_toInt]

/-- No signed word holds a number that is too small or too large. -/
theorem int64?_eq_none_iff {number : Int} :
    int64? number = none ↔ number < -2 ^ 63 ∨ 2 ^ 63 ≤ number := by
  have least : Int64.minValue.toInt = -2 ^ 63 := rfl
  have greatest : Int64.maxValue.toInt = 2 ^ 63 - 1 := rfl
  rw [int64?, least, greatest]
  split
  · rename_i inRange
    rw [Bool.and_eq_true, decide_eq_true_eq, decide_eq_true_eq] at inRange
    exact iff_of_false (Option.some_ne_none _) (by omega)
  · rename_i outside
    rw [Bool.and_eq_true, decide_eq_true_eq, decide_eq_true_eq] at outside
    exact iff_of_true rfl (by omega)

theorem integerOfText?_eq_some_iff {content : String} {view : Int64} :
    integerOfText? content = some view ↔ Text.Spells content view.toInt := by
  rw [integerOfText?, Option.bind_eq_some_iff, Text.spells_iff]
  constructor
  · rintro ⟨number, read, held⟩
    rw [int64?_eq_some_iff.mp held]
    exact Text.readInteger?_eq_some_iff.mp read
  · intro literal
    exact ⟨view.toInt, literal.readInteger?_eq, int64?_eq_some_iff.mpr rfl⟩

theorem integerOfText?_eq_none_iff {content : String} :
    integerOfText? content = none ↔
      ∀ number, Text.Spells content number → number < -2 ^ 63 ∨ 2 ^ 63 ≤ number := by
  rw [integerOfText?, Option.bind_eq_none_iff]
  refine forall_congr' fun number => ?_
  rw [Text.readInteger?_eq_some_iff, ← Text.spells_iff, int64?_eq_none_iff]

/-- Two values agree when they are the same, or when they are seen as the same number. -/
def Agrees (first second : Value) : Prop :=
  first = second ∨ ∃ number, first.integerView? = some number ∧ second.integerView? = some number

end Value

/-- Two parameters agree when they have the same name and their values agree. -/
structure Parameter.Agrees (first second : Parameter) : Prop where
  name : first.name = second.name
  value : first.value.Agrees second.value

/-- Hints agree when they name the same shard and give values that agree. -/
structure Hints.Agree (first second : Hints) : Prop where
  shardId : first.shardId = second.shardId
  shardValue : Option.Rel Value.Agrees first.shardValue second.shardValue
  columnValue : ∀ column,
    Option.Rel Value.Agrees (first.columnValue? column) (second.columnValue? column)

/-- References find their shards alike when they do it in the same way, or by values that agree. -/
inductive ShardSelector.Agrees : ShardSelector → ShardSelector → Prop where
  | same (selector : ShardSelector) : Agrees selector selector
  | value {first second : Value} (agree : first.Agrees second) :
      Agrees (.shardValue first) (.shardValue second)

/-- Look-ups of the same table agree when all that may tell its shard agrees. They are made in the same
topology, or without one. -/
structure Lookup.Agrees (first second : Lookup) : Prop where
  configured : ∀ locator, first.context.topology = some locator →
    ∃ topology : Topology, locator = topology.locator
  topology : first.context.topology = second.context.topology
  database : first.context.database = second.context.database
  hints : first.context.hints.Agree second.context.hints
  parameters : List.Forall₂ Parameter.Agrees first.parameters.entries second.parameters.entries
  table : first.reference.logicalName = second.reference.logicalName
  selector : first.reference.shard.Agrees second.reference.shard

/-- The first parameters of a name agree. -/
theorem Parameter.rel_find? {first second : List Parameter} (name : String)
    (agree : List.Forall₂ Parameter.Agrees first second) :
    Option.Rel Value.Agrees ((first.find? (Parameter.hasName name)).map (·.value))
      ((second.find? (Parameter.hasName name)).map (·.value)) := by
  induction agree with
  | nil => exact .none
  | @cons own other rest others agrees _ inductionHypothesis =>
      have sameName : own.hasName name = other.hasName name := by
        rw [Parameter.hasName, Parameter.hasName, agrees.name]
      rw [List.find?_cons, List.find?_cons, sameName]
      cases other.hasName name with
      | true => exact .some agrees.value
      | false => exact inductionHypothesis

/-- What is given first agrees, or else what is given next. -/
theorem Value.rel_or {first second next other : Option Value}
    (agree : Option.Rel Value.Agrees first second) (nextAgree : Option.Rel Value.Agrees next other) :
    Option.Rel Value.Agrees (first.or next) (second.or other) := by
  cases agree with
  | some values => exact .some values
  | none => exact nextAgree

/-- Without a hinted shard the source is the first value that is given. -/
theorem Hints.source_of_noShard {hints : Hints} (noShard : hints.shardId = none) (column : String)
    (placeholders : List Parameter) :
    hints.source column placeholders =
      ((hints.shardValue.or (hints.columnValue? column)).or
        ((placeholders.find? (Parameter.hasName column)).map (·.value))).elim
          .nothing .value := by
  rw [Hints.source, noShard]
  cases hints.shardValue.or (hints.columnValue? column) with
  | some told => rfl
  | none => cases placeholders.find? (Parameter.hasName column) <;> rfl

namespace Topology

variable {topology : Topology} {name table : String}

/-- Values that agree lead to the same shard. -/
theorem byValue_congr {first second : Value} (agree : first.Agrees second) :
    topology.byValue name table first = topology.byValue name table second := by
  rcases agree with rfl | ⟨number, firstView, secondView⟩
  · rfl
  · have same (rule : ShardRule) : shardNumber table rule first = shardNumber table rule second := by
      rw [shardNumber, shardNumber, firstView, secondView]
    rw [byValue, byValue]
    simp only [same]

/-- Values that agree are answered alike, and so is nothing. -/
theorem answer_congr {first second : Option Value} (agree : Option.Rel Value.Agrees first second)
    (column : String) :
    topology.answer name table column (first.elim .nothing .value) =
      topology.answer name table column (second.elim .nothing .value) := by
  cases agree with
  | some values => exact byValue_congr values
  | none => rfl

/-- Hints that agree lead to the same shard, and so do parameters that agree. -/
theorem byHints_congr {first second : Hints} {parameters others : Parameters}
    (agree : first.Agree second)
    (placeholders : List.Forall₂ Parameter.Agrees parameters.entries others.entries) :
    topology.byHints name table first parameters = topology.byHints name table second others := by
  cases found : topology.database? name with
  | none =>
      rw [byHints, byHints, sharded, found]
      rfl
  | some database =>
      cases ruled : database.rule? table with
      | none =>
          have unsharded := unsharded_of_noRule found ruled
          rw [unsharded.byHints, unsharded.byHints]
      | some rule =>
          rw [byHints_eq_answer found ruled, byHints_eq_answer found ruled]
          cases shard : second.shardId with
          | some id => rw [Hints.source, Hints.source, agree.shardId, shard]
          | none =>
              have given := Value.rel_or (Value.rel_or agree.shardValue (agree.columnValue rule.column))
                (Parameter.rel_find? rule.column placeholders)
              rw [Hints.source_of_noShard (agree.shardId.trans shard), Hints.source_of_noShard shard]
              exact answer_congr given rule.column

end Topology

/-- Look-ups that agree find the same table. -/
theorem Lookup.physicalName_congr {first second : Lookup} (agree : first.Agrees second) :
    first.physicalName = second.physicalName := by
  rw [physicalName, physicalName, Context.physicalName, Context.physicalName, ← agree.topology,
    agree.database, agree.table]
  cases chosen : first.context.topology with
  | none => rfl
  | some locator =>
      obtain ⟨topology, rfl⟩ := agree.configured locator chosen
      have selected := agree.selector
      generalize first.reference.shard = own at selected
      generalize second.reference.shard = other at selected
      cases second.context.database with
      | none => rfl
      | some name =>
          cases selected with
          | same selector =>
              simp only [Topology.byHints_locator,
                Topology.byHints_congr agree.hints agree.parameters]
          | value values =>
              simp only [Topology.byValue_locator, Topology.byValue_congr values]
              rfl

namespace Value

/-- A text is seen as a number exactly when it spells one between blanks, in decimal digits behind at most one
sign, and a signed word holds the number. Any other text is seen as none. So the decimal form of a number,
with blanks around it, with zeros in front, and with a plus sign unless it is negative, is seen as the number
itself, and in every look-up one value may stand for the other: the same table is found. -/
theorem integerView?_text_iff :
    (∀ (content : String) (view : Int64),
      (text content).integerView? = some view ↔ Text.Spells content view.toInt) ∧
    (∀ content : String, (text content).integerView? = none ↔
      ∀ number, Text.Spells content number → number < -2 ^ 63 ∨ 2 ^ 63 ≤ number) ∧
    (∀ (before after : List Char) (hasPlus : Bool) (zeros : Nat) (number : Int64),
      (∀ blank ∈ before ++ after, Text.isBlank blank = true) →
        let content :=
          String.ofList (before ++ Text.paddedLetters hasPlus zeros number.toInt ++ after)
        (text content).integerView? = some number ∧ (text content).Agrees (integer number)) ∧
    ∀ first second : Lookup, first.Agrees second → first.physicalName = second.physicalName := by
  refine ⟨fun _ _ => integerOfText?_eq_some_iff, fun _ => integerOfText?_eq_none_iff, ?_,
    fun _ _ => Lookup.physicalName_congr⟩
  intro before after hasPlus zeros number blank content
  rw [List.forall_mem_append] at blank
  have spells : Text.Spells content number.toInt :=
    ⟨before, _, after, String.toList_ofList, blank.1, blank.2,
      Text.decimalLiteral_paddedLetters hasPlus zeros number.toInt⟩
  have view : (text content).integerView? = some number := integerOfText?_eq_some_iff.mpr spells
  exact ⟨view, .inr ⟨number, view, rfl⟩⟩

/-- An order is looked up by a parameter with this value. -/
def orderOf (value : Value) : Lookup where
  context := { database := some "shop", topology := some Topology.shop }
  parameters := .ofList [⟨some "customer_id", value⟩]
  reference := { logicalName := "orders" }

/-- The greatest number, with a plus sign and a zero between blanks, leads to the shard of the number itself.
The number after it is not seen. -/
theorem integerView?_of_greatestNumber :
    (orderOf (.text "\t+09223372036854775807 ")).physicalName = .ok "orders_1" ∧
      (orderOf (.text "\t+09223372036854775807 ")).physicalName =
        (orderOf (.integer Int64.maxValue)).physicalName ∧
      (text "9223372036854775808").integerView? = none := by
  obtain ⟨-, unseen, padded, same⟩ := integerView?_text_iff
  have blank : ∀ letter ∈ ['\t', ' '], Text.isBlank letter = true :=
    List.forall_mem_cons.mpr ⟨rfl, List.forall_mem_cons.mpr ⟨rfl, nofun⟩⟩
  obtain ⟨-, agrees⟩ := padded ['\t'] [' '] true 1 Int64.maxValue blank
  have hints : Hints.empty.Agree Hints.empty :=
    ⟨rfl, .none, fun column => by rw [Hints.columnValue?]; exact .none⟩
  have configured (locator : Locator)
      (chosen : (orderOf (.text "\t+09223372036854775807 ")).context.topology = some locator) :
      ∃ topology : Topology, locator = topology.locator :=
    ⟨Topology.shop, (Option.some.inj chosen).symm⟩
  have alike : (orderOf (.text "\t+09223372036854775807 ")).Agrees
      (orderOf (.integer Int64.maxValue)) :=
    ⟨configured, rfl, rfl, hints, .cons ⟨rfl, agrees⟩ .nil, rfl, .same _⟩
  refine ⟨(same _ _ alike).trans (by decide), same _ _ alike, ?_⟩
  rw [unseen]
  intro number spells
  have next : Text.Spells "9223372036854775808" (2 ^ 63) :=
    Text.spells_iff.mpr (.unsigned (by decide))
  exact .inr (Int.le_of_eq (next.unique spells))

end Value

end SqlTemplate
