import SqlTemplate.Proofs.Composer.Faults
import SqlTemplate.Proofs.Statement.Outline
import SqlTemplate.Proofs.Statement.Pairing
import SqlTemplate.Proofs.Text.Trim

/-!
This file compares a statement whose placeholders are numbered with the same statement with bare
placeholders. The numbers run from one to the number of parameters, and only the placeholders of templates
are numbered.
-/

namespace SqlTemplate

namespace Template

theorem isBlank_placeholder : Text.isBlank placeholder = false := by decide

theorem numberFrom_eq_nil_iff (next : Nat) (letters : List Char) :
    numberFrom next letters = [] ↔ letters = [] := by
  cases letters with
  | nil => simp [numberFrom]
  | cons letter rest => by_cases marked : letter = placeholder <;> simp [numberFrom, marked]

/-- What is written for a placeholder has no blank. -/
theorem isBlank_of_mem_number {number : Nat} {letter : Char}
    (member : letter ∈ '$' :: Text.naturalLetters number) : Text.isBlank letter = false := by
  rcases List.mem_cons.mp member with rfl | digit
  · decide
  · exact Text.isBlank_of_mem_naturalLetters digit

/-- Blanks are dropped from the end before the numbering or after it. -/
theorem dropBlankEnd_numberFrom (next : Nat) (letters : List Char) :
    Text.dropBlankEnd (numberFrom next letters) = numberFrom next (Text.dropBlankEnd letters) := by
  induction letters generalizing next with
  | nil => rfl
  | cons letter rest inductionHypothesis =>
      by_cases marked : letter = placeholder
      · subst marked
        rw [numberFrom_placeholder, Text.dropBlankEnd_append_of_shown fun _ => isBlank_of_mem_number,
          inductionHypothesis, Text.dropBlankEnd_cons_of_shown isBlank_placeholder,
          numberFrom_placeholder]
      · rw [numberFrom_cons_of_ne marked]
        cases blank : Text.isBlank letter with
        | false =>
            rw [Text.dropBlankEnd_cons_of_shown blank, Text.dropBlankEnd_cons_of_shown blank,
              numberFrom_cons_of_ne marked, inductionHypothesis]
        | true =>
            rw [Text.dropBlankEnd_cons_of_blank blank, Text.dropBlankEnd_cons_of_blank blank,
              inductionHypothesis]
            by_cases nothing : Text.dropBlankEnd rest = []
            · rw [nothing, if_pos rfl]
              rfl
            · have something : ¬ numberFrom next (Text.dropBlankEnd rest) = [] := by
                rwa [numberFrom_eq_nil_iff]
              rw [if_neg nothing, if_neg something, numberFrom_cons_of_ne marked]

/-- Blanks are dropped from the front before the numbering or after it. -/
theorem dropWhile_numberFrom (next : Nat) (letters : List Char) :
    (numberFrom next letters).dropWhile Text.isBlank =
      numberFrom next (letters.dropWhile Text.isBlank) := by
  induction letters with
  | nil => rfl
  | cons letter rest inductionHypothesis =>
      by_cases marked : letter = placeholder
      · subst marked
        have dollar : ¬ Text.isBlank '$' = true := by decide
        have mark : ¬ Text.isBlank placeholder = true := by decide
        rw [numberFrom_placeholder, List.cons_append, List.dropWhile_cons_of_neg dollar,
          List.dropWhile_cons_of_neg mark, numberFrom_placeholder, List.cons_append]
      · rw [numberFrom_cons_of_ne marked]
        by_cases blank : Text.isBlank letter = true
        · rw [List.dropWhile_cons_of_pos blank, List.dropWhile_cons_of_pos blank,
            inductionHypothesis]
        · rw [List.dropWhile_cons_of_neg blank, List.dropWhile_cons_of_neg blank,
            numberFrom_cons_of_ne marked]

/-- A text is trimmed before the numbering or after it. -/
theorem trimLetters_numberFrom (next : Nat) (letters : List Char) :
    Text.trimLetters (numberFrom next letters) = numberFrom next (Text.trimLetters letters) := by
  rw [Text.trimLetters, dropWhile_numberFrom, dropBlankEnd_numberFrom, Text.trimLetters]

/-- The text between the placeholders: what stands before the first one, and what follows each. -/
theorem exists_segments (letters : List Char) :
    ∃ (head : List Char) (tails : List (List Char)),
      (∀ segment ∈ head :: tails, placeholder ∉ segment) ∧
        letters = head ++ tails.flatMap fun tail => placeholder :: tail := by
  induction letters with
  | nil => exact ⟨[], [], by simp, rfl⟩
  | cons letter rest inductionHypothesis =>
      obtain ⟨head, tails, unmarked, rfl⟩ := inductionHypothesis
      by_cases marked : letter = placeholder
      · subst marked
        refine ⟨[], head :: tails, ?_, rfl⟩
        rw [List.forall_mem_cons]
        exact ⟨List.not_mem_nil, unmarked⟩
      · rw [List.forall_mem_cons] at unmarked
        refine ⟨letter :: head, tails, ?_, rfl⟩
        rw [List.forall_mem_cons, List.mem_cons, not_or]
        exact ⟨⟨Ne.symm marked, unmarked.1⟩, unmarked.2⟩

/-- Each placeholder between the segments gets its number. -/
theorem numberFrom_segments (next : Nat) {head : List Char} {tails : List (List Char)}
    (unmarked : ∀ segment ∈ head :: tails, placeholder ∉ segment) :
    numberFrom next (head ++ tails.flatMap fun tail => placeholder :: tail) =
      head ++ (tails.zipIdx next).flatMap fun entry =>
        '$' :: Text.naturalLetters entry.2 ++ entry.1 := by
  induction tails generalizing next head with
  | nil =>
      rw [List.forall_mem_cons] at unmarked
      simp [numberFrom_of_not_mem unmarked.1]
  | cons tail rest inductionHypothesis =>
      rw [List.forall_mem_cons] at unmarked
      have none : head.count placeholder = 0 := List.count_eq_zero.mpr unmarked.1
      rw [numberFrom_append, numberFrom_of_not_mem unmarked.1, none, List.flatMap_cons,
        List.cons_append, Nat.add_zero, numberFrom_placeholder, inductionHypothesis _ unmarked.2,
        List.zipIdx_cons, List.flatMap_cons, List.append_assoc]

end Template

/-- Quoting an identifier puts no other letters into it than the marks. -/
theorem Text.Marks.mem_enclose {marks : Text.Marks} {letter : Char} {text : String}
    (member : letter ∈ (marks.enclose text).toList) :
    letter = marks.opening ∨ letter = marks.closing ∨ letter ∈ text.toList := by
  have inside (letters : List Char) (within : letter ∈ marks.double letters) :
      letter ∈ letters := by
    induction letters with
    | nil => exact within
    | cons first rest inductionHypothesis =>
        rw [double] at within
        split at within
        · simp only [List.mem_cons] at within ⊢
          rcases within with isFirst | isSecond | later
          · exact .inl isFirst
          · exact .inl isSecond
          · exact .inr (inductionHypothesis later)
        · simp only [List.mem_cons] at within ⊢
          exact within.imp_right inductionHypothesis
  rw [enclose, String.toList_ofList, List.cons_append, List.mem_cons, List.mem_append,
    List.mem_singleton] at member
  rcases member with isOpening | within | isClosing
  · exact .inl isOpening
  · exact .inr (.inr (inside _ within))
  · exact .inr (.inl isClosing)

/-- The text holds no sign of a placeholder. -/
def Unmarked (text : String) : Prop := Template.placeholder ∉ text.toList

instance (text : String) : Decidable (Unmarked text) :=
  inferInstanceAs (Decidable (Template.placeholder ∉ text.toList))

namespace Unmarked

theorem append {first second : String} (firstUnmarked : Unmarked first)
    (secondUnmarked : Unmarked second) : Unmarked (first ++ second) := by
  rw [Unmarked, String.toList_append, List.mem_append, not_or]
  exact ⟨firstUnmarked, secondUnmarked⟩

theorem quote {identifier : String} (unmarked : Unmarked identifier) (dialect : Dialect) :
    Unmarked (dialect.style.quote identifier) := by
  have marks : Template.placeholder ≠ dialect.marks.opening ∧
      Template.placeholder ≠ dialect.marks.closing := by
    cases dialect <;> decide
  intro member
  rcases Text.Marks.mem_enclose member with isOpening | isClosing | inside
  · exact marks.1 isOpening
  · exact marks.2 isClosing
  · exact unmarked inside

theorem withAlias {written : String} (unmarked : Unmarked written) {otherName : Option String}
    (noMark : ∀ name ∈ otherName.toList, Unmarked name) :
    Unmarked (Statement.withAlias written otherName) := by
  cases otherName with
  | none => exact unmarked
  | some name =>
      have between : Unmarked " AS " := by decide
      exact (unmarked.append between).append (noMark name (by simp))

end Unmarked

namespace Statement

namespace Stretch

/-- No fixed stretch holds the sign of a placeholder. -/
def AllUnmarked (parts : List Stretch) : Prop :=
  ∀ text, Stretch.fixed text ∈ parts → Unmarked text

theorem allUnmarked_fixed_cons {text : String} {rest : List Stretch} :
    AllUnmarked (.fixed text :: rest) ↔ Unmarked text ∧ AllUnmarked rest := by
  simp [AllUnmarked]

theorem allUnmarked_template_cons {letters : List Char} {rest : List Stretch} :
    AllUnmarked (.template letters :: rest) ↔ AllUnmarked rest := by
  simp [AllUnmarked]

theorem allUnmarked_append {first second : List Stretch} :
    AllUnmarked (first ++ second) ↔ AllUnmarked first ∧ AllUnmarked second := by
  simp only [AllUnmarked, List.mem_append, or_imp, forall_and]

/-- The letters hold one sign for each placeholder of a template, when the fixed stretches hold none and nothing is
numbered. -/
theorem count_written {parts : List Stretch} (unmarked : AllUnmarked parts) (next : Nat) :
    (written ⟨false, next⟩ parts).count Template.placeholder = placeholders parts := by
  induction parts with
  | nil => rfl
  | cons stretch rest inductionHypothesis =>
      cases stretch with
      | fixed text =>
          rw [allUnmarked_fixed_cons] at unmarked
          rw [written, placeholders, List.count_append, List.count_eq_zero.mpr unmarked.1,
            inductionHypothesis unmarked.2, Nat.zero_add]
      | template letters =>
          rw [allUnmarked_template_cons] at unmarked
          have plain : Numbering.written ⟨false, next⟩ letters = letters := rfl
          have still : Numbering.advance ⟨false, next⟩ (letters.count Template.placeholder) =
              ⟨false, next⟩ := rfl
          rw [written, placeholders, plain, still, List.count_append, inductionHypothesis unmarked]

/-- Without a sign in the fixed stretches, the placeholders are numbered in the whole text. -/
theorem written_eq_numberFrom {parts : List Stretch} (unmarked : AllUnmarked parts) (next bare : Nat) :
    written ⟨true, next⟩ parts = Template.numberFrom next (written ⟨false, bare⟩ parts) := by
  induction parts generalizing next with
  | nil => rfl
  | cons stretch rest inductionHypothesis =>
      cases stretch with
      | fixed text =>
          rw [allUnmarked_fixed_cons] at unmarked
          rw [written, written, Template.numberFrom_append,
            Template.numberFrom_of_not_mem unmarked.1, List.count_eq_zero.mpr unmarked.1,
            Nat.add_zero, inductionHypothesis unmarked.2]
      | template letters =>
          rw [allUnmarked_template_cons] at unmarked
          have plain : Numbering.written ⟨false, bare⟩ letters = letters := rfl
          have still : Numbering.advance ⟨false, bare⟩ (letters.count Template.placeholder) =
              ⟨false, bare⟩ := rfl
          have numbered : Numbering.written ⟨true, next⟩ letters =
              Template.numberFrom next letters := rfl
          have goesOn : Numbering.advance ⟨true, next⟩ (letters.count Template.placeholder) =
              ⟨true, next + letters.count Template.placeholder⟩ := rfl
          rw [written, written, plain, still, numbered, goesOn, Template.numberFrom_append,
            inductionHypothesis unmarked]

end Stretch

/-- The names that a token writes: that of a column, the physical one of a table, and an alias. -/
def identifiers (named : TableRef → Except Fault String) : Token → List String
  | .column reference => reference.name :: reference.shownAs.toList
  | .columnExpression columnName _ => [columnName]
  | .table reference => (named reference).toOption.toList ++ reference.shownAs.toList
  | _ => []

/-- A token whose names hold no sign of a placeholder has none in its fixed stretches. -/
theorem allUnmarked_stretches {dialect : Dialect} {named : TableRef → Except Fault String}
    {token : Token} {own : List Stretch} (outlined : stretches dialect named token = .ok own)
    (bare : ∀ identifier ∈ identifiers named token, Unmarked identifier) :
    Stretch.AllUnmarked own := by
  cases token with
  | text content =>
      cases outlined
      simp [Stretch.AllUnmarked]
  | keyword word =>
      cases outlined
      have noMark : Unmarked word.word := by cases word <;> decide
      simpa [Stretch.AllUnmarked] using noMark
  | operator connective =>
      cases outlined
      have noMark : Unmarked connective.word := by cases connective <;> decide
      simpa [Stretch.AllUnmarked] using noMark
  | bracket half =>
      cases outlined
      have noMark : Unmarked half.sign := by cases half <;> decide
      simpa [Stretch.AllUnmarked] using noMark
  | column reference =>
      cases outlined
      rw [identifiers, List.forall_mem_cons] at bare
      have noMark := (bare.1.quote dialect).withAlias bare.2
      simpa [Stretch.AllUnmarked] using noMark
  | table reference =>
      obtain ⟨physicalName, found, whole⟩ := (bind_eq_ok_iff _ _ _).mp outlined
      cases whole
      rw [identifiers, found, List.forall_mem_append] at bare
      have name : Unmarked physicalName := bare.1 physicalName (by simp [Except.toOption])
      have shown := (name.quote dialect).withAlias bare.2
      have hint : Unmarked dialect.style.readHint := by cases dialect <;> decide
      have space : Unmarked " " := by decide
      have noMark : Unmarked (writeTable dialect reference physicalName) := by
        rw [writeTable]
        split
        · exact (shown.append space).append hint
        · exact shown
      simpa [Stretch.AllUnmarked] using noMark
  | expression body =>
      cases outlined
      simp [Stretch.AllUnmarked]
  | columnExpression columnName body =>
      rw [stretches] at outlined
      split at outlined
      · cases outlined
      · cases outlined
        have noMark := (bare columnName (by simp [identifiers])).quote dialect
        simpa [Stretch.AllUnmarked] using noMark
  | omitted =>
      cases outlined
      simp [Stretch.AllUnmarked]

theorem unmarked_gap (token next : Token) : Unmarked (gap token next) := by
  rw [gap]
  split <;> decide

/-- Laying out keeps the placeholders of the parts and adds no sign of one. -/
theorem allUnmarked_layOut {parts : List (Token × List Stretch)}
    (unmarked : ∀ part ∈ parts, Stretch.AllUnmarked part.2) :
    Stretch.AllUnmarked (layOut parts) := by
  induction parts with
  | nil => simp [layOut, Stretch.AllUnmarked]
  | cons part rest inductionHypothesis =>
      rw [List.forall_mem_cons] at unmarked
      cases rest with
      | nil => exact unmarked.1
      | cons next later =>
          rw [layOut, Stretch.allUnmarked_append, Stretch.allUnmarked_fixed_cons]
          exact ⟨unmarked.1, unmarked_gap _ _, inductionHypothesis unmarked.2⟩

/-- An outline has no sign of a placeholder in its fixed stretches when no name of its tokens has one. -/
theorem allUnmarked_of_outline {dialect : Dialect} {named : TableRef → Except Fault String}
    {tokens : List Token} {parts : List (Token × List Stretch)}
    (outlined : outline dialect named tokens = .ok parts)
    (bare : ∀ token ∈ tokens, ∀ identifier ∈ identifiers named token, Unmarked identifier) :
    Stretch.AllUnmarked (layOut parts) := by
  obtain ⟨rfl, each⟩ := mem_outline outlined
  apply allUnmarked_layOut
  intro part member
  exact allUnmarked_stretches (each part member) (bare part.1 (List.mem_map_of_mem member))

/-- The two dialects with the same quotes outline a statement in the same way. -/
theorem outline_postgreSql (named : TableRef → Except Fault String) (tokens : List Token) :
    outline .postgreSql named tokens = outline .oracle named tokens := by
  have each (token : Token) : stretches .postgreSql named token = stretches .oracle named token := by
    cases token <;> rfl
  induction tokens with
  | nil => rfl
  | cons token rest inductionHypothesis => rw [outline, outline, each, inductionHypothesis]

/-- What is numbered and what is bare, when no identifier holds the sign of a placeholder. -/
theorem exists_segments_written {parts : List Stretch} (unmarked : Stretch.AllUnmarked parts) :
    let numbered := Text.trimLetters (Stretch.written (.start .postgreSql) parts)
    let bare := Text.trimLetters (Stretch.written (.start .oracle) parts)
    bare.count '?' = Stretch.placeholders parts ∧
      ∃ (head : List Char) (tails : List (List Char)),
        (∀ segment ∈ head :: tails, '?' ∉ segment) ∧
        bare = head ++ (tails.flatMap fun tail => '?' :: tail) ∧
        numbered = head ++ (tails.zipIdx 1).flatMap fun entry =>
          '$' :: (Text.natural entry.2).toList ++ entry.1 := by
  intro numbered bare
  have count : bare.count Template.placeholder = Stretch.placeholders parts :=
    (Text.count_trimLetters Template.isBlank_placeholder _).trans (Stretch.count_written unmarked 1)
  have rewritten : numbered = Template.numberFrom 1 bare :=
    (congrArg Text.trimLetters (Stretch.written_eq_numberFrom unmarked 1 1)).trans
      (Template.trimLetters_numberFrom 1 _)
  obtain ⟨head, tails, noMark, cut⟩ := Template.exists_segments bare
  refine ⟨count, head, tails, noMark, cut, ?_⟩
  rw [rewritten, cut, Template.numberFrom_segments 1 noMark]
  simp only [Text.natural, String.toList_ofList]

/-- Numbering a statement and leaving its placeholders bare differ in nothing else. Both attempts fail with
the same fault, or both give the same parameters and write the same outline. The outline has one
placeholder for each parameter, and its other stretches stand as they are, so an identifier is never
numbered. When no identifier holds the sign of a placeholder, the bare text has one sign for each
parameter, and the numbered text is the bare one with the numbers from one on in their places. When the calls of
the locator return, so do both attempts. -/
theorem render_numbered (context : Context) (tokens : List Token) :
    let numbered := render { context with chosenDialect := some .postgreSql } tokens
    let bare := render { context with chosenDialect := some .oracle } tokens
    ((∃ fault, numbered = .error fault ∧ bare = .error fault) ∨
      ∃ (first second : Statement) (parts : List (Token × List Stretch)),
        numbered = .ok first ∧ bare = .ok second ∧ first.parameters = second.parameters ∧
        outline .oracle (context.physicalName second.parameters) (visible tokens) = .ok parts ∧
        Stretch.placeholders (layOut parts) = second.parameters.size ∧
        first.sql.toList =
          Text.trimLetters (Stretch.written (.start .postgreSql) (layOut parts)) ∧
        second.sql.toList = Text.trimLetters (Stretch.written (.start .oracle) (layOut parts)) ∧
        ((∀ token ∈ tokens,
            ∀ identifier ∈ identifiers (context.physicalName second.parameters) token,
              '?' ∉ identifier.toList) →
          second.sql.toList.count '?' = second.parameters.size ∧
          ∃ (head : List Char) (tails : List (List Char)),
            (∀ segment ∈ head :: tails, '?' ∉ segment) ∧
            second.sql.toList = head ++ (tails.flatMap fun tail => '?' :: tail) ∧
            first.sql.toList = head ++ (tails.zipIdx 1).flatMap fun entry =>
              '$' :: (Text.natural entry.2).toList ++ entry.1)) ∧
    (context.Returns → numbered ≠ .error .zeroDivisor ∧ bare ≠ .error .zeroDivisor) := by
  intro numbered bare
  have still (returns : context.Returns) (dialect : Dialect) :
      ({ context with chosenDialect := some dialect } : Context).Returns := returns
  refine ⟨?_, fun returns => ⟨render_ne_zeroDivisor (still returns .postgreSql) tokens,
    render_ne_zeroDivisor (still returns .oracle) tokens⟩⟩
  cases paired : pairFrom 0 context.supply (visible tokens) with
  | error fault => exact .inl ⟨.state fault, render_of_unpaired paired, render_of_unpaired paired⟩
  | ok entries =>
      have rendered (dialect : Dialect) :
          render { context with chosenDialect := some dialect } tokens =
            (outline dialect (context.physicalName (.ofList entries)) (visible tokens) >>=
              fun parts => .ok ⟨String.ofList (Text.trimLetters
                (Stretch.written (.start dialect) (layOut parts))), .ofList entries⟩) :=
        render_of_paired paired
      have first : numbered = _ := rendered .postgreSql
      have second : bare = _ := rendered .oracle
      rw [first, second, outline_postgreSql]
      cases outlined : outline .oracle (context.physicalName (.ofList entries)) (visible tokens) with
      | error fault => exact .inl ⟨fault, rfl, rfl⟩
      | ok parts =>
          have size : Stretch.placeholders (layOut parts) = (Parameters.ofList entries).size := by
            rw [placeholders_of_outline outlined, ← Parameters.length_contents,
              Parameters.contents_ofList, length_of_pairFrom paired]
          refine .inr ⟨_, _, parts, rfl, rfl, rfl, outlined, size, String.toList_ofList,
            String.toList_ofList, fun bareNames => ?_⟩
          have noMark : Stretch.AllUnmarked (layOut parts) :=
            allUnmarked_of_outline outlined fun token member =>
              bareNames token (List.mem_filter.mp member).1
          obtain ⟨count, segments⟩ := exists_segments_written noMark
          rw [String.toList_ofList, String.toList_ofList]
          exact ⟨count.trans size, segments⟩

/-- A range of totals and a state, with a value for each placeholder. -/
def rangedOrders : List Token :=
  [.table { logicalName := "orders" }, .keyword .condition,
    .columnExpression "total" { template := "\x7b\x7d BETWEEN ? AND ?" },
    .operator .conjunction, .text "state = ?"]

/-- The values come from the context. -/
def rangedContext : Context where
  parameters := some (.ofList [⟨none, .integer 5⟩, ⟨none, .integer 9⟩, ⟨none, .text "paid"⟩])

theorem render_numbered_of_rangedOrders :
    rangedContext.Returns ∧ ∃ first second : Statement,
      render { rangedContext with chosenDialect := some .postgreSql } rangedOrders = .ok first ∧
      render { rangedContext with chosenDialect := some .oracle } rangedOrders = .ok second ∧
      first.sql = "\"orders\" WHERE \"total\" BETWEEN $1 AND $2 AND state = $3" ∧
      second.sql = "\"orders\" WHERE \"total\" BETWEEN ? AND ? AND state = ?" ∧
      second.sql.toList.count '?' = second.parameters.size := by
  have returns : rangedContext.Returns := fun locator chosen => by cases chosen
  obtain ⟨⟨fault, failed, -⟩ | ⟨first, second, parts, numbered, bare, -, -, -, -, -, placed⟩, -⟩ :=
    render_numbered rangedContext rangedOrders
  · have rendered : ∃ statement,
        render { rangedContext with chosenDialect := some .postgreSql } rangedOrders =
          .ok statement := ⟨_, rfl⟩
    obtain ⟨statement, rendered⟩ := rendered
    rw [failed] at rendered
    cases rendered
  · refine ⟨returns, first, second, numbered, bare, ?_, ?_, ?_⟩
    · cases numbered
      decide
    · cases bare
      decide
    · cases bare
      exact (placed (by decide)).1

/-- An identifier keeps its question mark. -/
example :
    render { chosenDialect := some .postgreSql, parameters := some (.ofList [⟨none, .integer 7⟩]) }
      [.column ⟨"a?", none⟩, .text "= ?"] = .ok ⟨"\"a?\" = $1", ⟨[⟨⟨none, .integer 7⟩, 1⟩]⟩⟩ :=
  rfl

end Statement

end SqlTemplate
