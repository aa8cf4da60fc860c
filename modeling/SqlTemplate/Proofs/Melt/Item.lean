import SqlTemplate.Proofs.Melt.Kind

/-!
This file splits tokens into the items of a bracket level, which are words and whole groups. It says
what an operator finds when it looks to the right or to the left on its level. The items are determined
by the tokens from either end.
-/

namespace SqlTemplate.Melt

open Nesting

/-- An item of a bracket level is a token that is no bracket, or a bracket pair with all between. -/
inductive Item where
  | word (token : Token) (notBracket : token.isBracket = false)
  | group (inner : List Token) (balanced : Balanced inner)

namespace Item

/-- The tokens of an item. -/
def tokens : Item → List Token
  | word token _ => [token]
  | group inner _ => Token.bracketed inner

/-- The operands of a level are its operand words and its groups with content. -/
def IsOperand : Item → Prop
  | word token _ => token.isOperand = true
  | group inner _ => HasContent inner

/-- An operator looks past dead words, negations and groups without content. -/
def IsOverlooked : Item → Prop
  | word token _ => token.isDead = true ∨ token.isNegation = true
  | group inner _ => ¬ HasContent inner

/-- A keyword of the level ends the clause before it. A keyword in a group does not. -/
def IsWithinClause : Item → Prop
  | word token _ => token.isKeyword = false
  | group _ _ => True

end Item

/-- The item of a word. -/
def Word.item (word : Word) : Item := .word word.token word.notBracket

/-- The item of a group. -/
def groupItem (inner : Level Word) : Item := .group (spelled inner) (balanced_spelled inner)

/-- An operand of the level follows, and only passed items stand before it. -/
def Follows (passed : Item → Prop) (after : List Token) : Prop :=
  ∃ (items : List Item) (unit : Item) (rest : List Token),
    after = items.flatMap Item.tokens ++ (unit.tokens ++ rest) ∧
      (∀ item ∈ items, passed item) ∧ unit.IsOperand

/-- An operand of the level precedes, and no keyword of the level stands behind it. -/
def Precedes (before : List Token) : Prop :=
  ∃ (earlier : List Token) (unit : Item) (items : List Item),
    before = earlier ++ unit.tokens ++ items.flatMap Item.tokens ∧
      unit.IsOperand ∧ ∀ item ∈ items, item.IsWithinClause

/-- Balanced tokens in front of a closing bracket are determined by the whole. -/
theorem balanced_append_closing_inj {first second rest other : List Token}
    (firstBalanced : Balanced first) (secondBalanced : Balanced second)
    (same : first ++ .bracket .closing :: rest = second ++ .bracket .closing :: other) :
    first = second ∧ rest = other := by
  obtain ⟨firstPhrase, rfl⟩ := exists_phrase firstBalanced
  obtain ⟨secondPhrase, rfl⟩ := exists_phrase secondBalanced
  have marks := congrArg (List.map mark) same
  simp only [List.map_append, List.map_cons, map_mark_spelled, mark] at marks
  have levels := congrArg (fun marks => (Level.read marks).1) marks
  simp only [Level.read_flatten_append, Level.read_closing, Level.append_done] at levels
  have size : (spelled firstPhrase).length = (spelled secondPhrase).length := by
    rw [← List.length_map mark, map_mark_spelled, levels, ← map_mark_spelled, List.length_map]
  obtain ⟨inner, outer⟩ := List.append_inj same size
  exact ⟨inner, (List.cons.inj outer).2⟩

/-- The first item is determined by the tokens. -/
theorem item_append_inj {first second : Item} {rest other : List Token}
    (same : first.tokens ++ rest = second.tokens ++ other) : first = second ∧ rest = other := by
  cases first with
  | word token notBracket =>
      cases second with
      | word other notBracket =>
          simp only [Item.tokens, List.cons_append, List.nil_append, List.cons.injEq] at same
          obtain ⟨rfl, rfl⟩ := same
          exact ⟨rfl, rfl⟩
      | group inner balanced =>
          have opening : token = .bracket .opening := (List.cons.inj same).1
          rw [opening] at notBracket
          cases notBracket
  | group inner balanced =>
      cases second with
      | word token notBracket =>
          have opening : .bracket .opening = token := (List.cons.inj same).1
          rw [← opening] at notBracket
          cases notBracket
      | group otherInner otherBalanced =>
          rw [Item.tokens, Item.tokens, Token.bracketed_append, Token.bracketed_append] at same
          have tails := (List.cons.inj same).2
          obtain ⟨rfl, rfl⟩ := balanced_append_closing_inj balanced otherBalanced tails
          exact ⟨rfl, rfl⟩

/-- A bracket seen from the other end. -/
def turned : Token → Token
  | .bracket .opening => .bracket .closing
  | .bracket .closing => .bracket .opening
  | token => token

/-- The tokens read from the other end. -/
def mirrored (tokens : List Token) : List Token := (tokens.map turned).reverse

theorem turned_turned (token : Token) : turned (turned token) = token := by
  cases token with
  | bracket half => cases half <;> rfl
  | _ => rfl

theorem mirrored_mirrored (tokens : List Token) : mirrored (mirrored tokens) = tokens := by
  simp [mirrored, Function.comp_def, turned_turned]

theorem mirrored_append (first second : List Token) :
    mirrored (first ++ second) = mirrored second ++ mirrored first := by
  simp [mirrored]

theorem mirrored_bracketed (inner : List Token) :
    mirrored (Token.bracketed inner) = Token.bracketed (mirrored inner) := by
  simp [mirrored, Token.bracketed, turned]

/-- Balanced tokens one after the other are balanced. -/
theorem balanced_append {first second : List Token} (firstBalanced : Balanced first)
    (secondBalanced : Balanced second) : Balanced (first ++ second) := by
  induction firstBalanced with
  | empty => exact secondBalanced
  | word notBracket _ inductionHypothesis => exact .word notBracket inductionHypothesis
  | group innerBalanced _ _ restHypothesis =>
      rw [List.append_assoc]
      exact .group innerBalanced restHypothesis

/-- Balanced tokens are balanced from the other end too. -/
theorem balanced_mirrored {tokens : List Token} (balanced : Balanced tokens) :
    Balanced (mirrored tokens) := by
  induction balanced with
  | empty => exact .empty
  | @word token rest notBracket _ inductionHypothesis =>
      have kept : turned token = token := by
        cases token <;> first | rfl | cases notBracket
      have last : mirrored (token :: rest) = mirrored rest ++ [token] := by
        simp [mirrored, kept]
      rw [last]
      exact balanced_append inductionHypothesis (.word notBracket .empty)
  | @group inner rest _ _ innerHypothesis restHypothesis =>
      rw [mirrored_append, mirrored_bracketed]
      refine balanced_append restHypothesis ?_
      simpa using Balanced.group innerHypothesis .empty

/-- An item read from the other end. -/
def Item.mirrored : Item → Item
  | word token notBracket => word token notBracket
  | group inner balanced => group (Melt.mirrored inner) (balanced_mirrored balanced)

theorem Item.tokens_mirrored (item : Item) : item.mirrored.tokens = Melt.mirrored item.tokens := by
  cases item with
  | word token notBracket => cases token <;> first | rfl | cases notBracket
  | group inner balanced => exact (mirrored_bracketed inner).symm

theorem Item.mirrored_mirrored (item : Item) : item.mirrored.mirrored = item := by
  cases item with
  | word token notBracket => rfl
  | group inner balanced => simp [Item.mirrored, Melt.mirrored_mirrored]

/-- The last item is determined by the tokens. -/
theorem append_item_inj {first second : Item} {rest other : List Token}
    (same : rest ++ first.tokens = other ++ second.tokens) : first = second ∧ rest = other := by
  have turnedSame := congrArg mirrored same
  rw [mirrored_append, mirrored_append, ← Item.tokens_mirrored,
    ← Item.tokens_mirrored] at turnedSame
  obtain ⟨items, rests⟩ := item_append_inj turnedSame
  have unturned := congrArg Item.mirrored items
  have unturnedRests := congrArg mirrored rests
  rw [Item.mirrored_mirrored, Item.mirrored_mirrored] at unturned
  rw [mirrored_mirrored, mirrored_mirrored] at unturnedRests
  exact ⟨unturned, unturnedRests⟩

/-- Looking to the right either finds the first item or goes past it. -/
theorem follows_item_append (passed : Item → Prop) (item : Item) (after : List Token) :
    Follows passed (item.tokens ++ after) ↔
      item.IsOperand ∨ (passed item ∧ Follows passed after) := by
  constructor
  · rintro ⟨items, unit, rest, split, allPassed, operand⟩
    cases items with
    | nil =>
        obtain ⟨rfl, -⟩ := item_append_inj split
        exact .inl operand
    | cons first later =>
        rw [List.flatMap_cons, List.append_assoc] at split
        obtain ⟨rfl, splitLater⟩ := item_append_inj split
        exact .inr ⟨allPassed item (by simp), later, unit, rest, splitLater,
          fun other member => allPassed other (by simp [member]), operand⟩
  · rintro (operand | ⟨itemPassed, items, unit, rest, split, allPassed, operand⟩)
    · exact ⟨[], item, after, by simp, by simp, operand⟩
    · have bothPassed : ∀ other ∈ item :: items, passed other :=
        List.forall_mem_cons.mpr ⟨itemPassed, allPassed⟩
      exact ⟨item :: items, unit, rest, by simp [split], bothPassed, operand⟩

/-- A level ends in front of what it does not reach: a closing bracket, or nothing. -/
def Closed (after : List Token) : Prop := ∀ token ∈ after.head?, token = .bracket .closing

/-- No item begins with a closing bracket. -/
theorem not_closed_item_append (item : Item) (rest : List Token) :
    ¬ Closed (item.tokens ++ rest) := by
  intro closed
  cases item with
  | word token notBracket =>
      rw [closed token rfl] at notBracket
      cases notBracket
  | group inner balanced => cases closed (.bracket .opening) rfl

/-- Behind the end of a level no operand follows. -/
theorem not_follows_of_closed {passed : Item → Prop} {after : List Token} (closed : Closed after) :
    ¬ Follows passed after := by
  rintro ⟨items, unit, rest, rfl, -, -⟩
  cases items with
  | nil => exact not_closed_item_append unit rest closed
  | cons first later =>
      rw [List.flatMap_cons, List.append_assoc] at closed
      exact not_closed_item_append first _ closed

/-- Looking to the left either finds the last item or goes past it. -/
theorem precedes_append_item (before : List Token) (item : Item) :
    Precedes (before ++ item.tokens) ↔
      item.IsOperand ∨ (item.IsWithinClause ∧ Precedes before) := by
  constructor
  · rintro ⟨earlier, unit, items, split, operand, noKeyword⟩
    rcases items.eq_nil_or_concat with rfl | ⟨first, last, rfl⟩
    · rw [List.flatMap_nil, List.append_nil] at split
      obtain ⟨rfl, -⟩ := append_item_inj split
      exact .inl operand
    · rw [List.concat_eq_append] at split noKeyword
      rw [List.flatMap_append, List.flatMap_singleton, ← List.append_assoc] at split
      obtain ⟨rfl, splitFirst⟩ := append_item_inj split
      exact .inr ⟨noKeyword item (by simp), earlier, unit, first, splitFirst, operand,
        fun other member => noKeyword other (by simp [member])⟩
  · rintro (operand | ⟨itemPassed, earlier, unit, items, split, operand, noKeyword⟩)
    · exact ⟨before, item, [], by simp, operand, by simp⟩
    · refine ⟨earlier, unit, items ++ [item], by simp [split], operand, ?_⟩
      intro other member
      rcases List.mem_append.mp member with inside | last
      · exact noKeyword other inside
      · rw [List.mem_singleton.mp last]
        exact itemPassed

/-- No item ends with an opening bracket. -/
theorem append_item_ne_opening (before : List Token) (item : Item) (rest : List Token) :
    before ++ item.tokens ≠ rest ++ [.bracket .opening] := by
  intro same
  have last := congrArg List.getLast? same
  cases item with
  | word token notBracket =>
      simp only [Item.tokens, List.getLast?_append, List.getLast?_singleton, Option.some_or,
        Option.some.injEq] at last
      rw [last] at notBracket
      cases notBracket
  | group inner balanced =>
      rw [Item.tokens, Token.bracketed, List.getLast?_append, List.getLast?_append,
        List.getLast?_append] at last
      cases last

/-- At the beginning of a group no operand precedes. -/
theorem not_precedes_opening (before : List Token) :
    ¬ Precedes (before ++ [.bracket .opening]) := by
  rintro ⟨earlier, unit, items, split, -, -⟩
  rcases items.eq_nil_or_concat with rfl | ⟨first, last, rfl⟩
  · rw [List.flatMap_nil, List.append_nil] at split
    exact append_item_ne_opening earlier unit before split.symm
  · rw [List.concat_eq_append, List.flatMap_append, List.flatMap_singleton,
      ← List.append_assoc] at split
    exact append_item_ne_opening _ last before split.symm

/-- At the beginning of a statement no operand precedes. -/
theorem not_precedes_nil : ¬ Precedes [] := by
  rintro ⟨earlier, unit, items, split, -, -⟩
  cases unit <;> simp [Item.tokens, Token.bracketed] at split

end SqlTemplate.Melt
