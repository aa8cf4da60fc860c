import SqlTemplate.Composer.Program
import SqlTemplate.Proofs.Composer.Parameters
import SqlTemplate.Proofs.Statement.Listing
import SqlTemplate.Proofs.Text.Trim

/-!
This file builds the statement that inserts a row. Its text lists the columns and as many placeholders, and its
parameters are those of the context, when these are as many as the columns.
-/

namespace SqlTemplate

/-- The placeholder with a number. Only PostgreSQL shows the number. -/
def Dialect.placeholder (dialect : Dialect) (number : Nat) : String :=
  if dialect = .postgreSql then "$" ++ Text.natural number else "?"

open Token Statement

section InsertedRow

variable {table : String} {columns : List String} {context : Context} {parameters : Parameters}

theorem steady_columnList (columns : List String) : ∀ token ∈ columnList columns, token.IsSteady :=
  steady_separated (List.forall_mem_map.mpr fun _ _ => ⟨rfl, fun _ _ => rfl⟩)

theorem steady_placeholderList (columns : List String) :
    ∀ token ∈ placeholderList columns, token.IsSteady :=
  steady_separated (List.forall_mem_map.mpr fun _ _ => ⟨rfl, fun _ _ => rfl⟩)

/-- An inserted row is well formed, because neither of its lists is empty. -/
theorem wellFormed_insertInto (table : String) (notEmpty : columns ≠ []) :
    WellFormed (Clause.insertInto table columns).spelled := by
  have someColumns : columnList columns ≠ [] := separated_ne_nil (by simpa using notEmpty)
  have somePlaceholders : placeholderList columns ≠ [] := separated_ne_nil (by simpa using notEmpty)
  constructor
  · have balancedColumns := Melt.balanced_of_steady (steady_columnList columns)
    have balancedPlaceholders := Melt.balanced_of_steady (steady_placeholderList columns)
    have row : Balanced (.keyword .insertInto :: .table { logicalName := table } ::
        (bracketed (columnList columns) ++ (.text "" :: .keyword .values ::
          (bracketed (placeholderList columns) ++ [])))) :=
      .word rfl (.word rfl (.group balancedColumns
        (.word rfl (.word rfl (.group balancedPlaceholders .empty)))))
    simpa [Clause.spelled] using row
  · rw [← Melt.fitting_iff_forall, Clause.spelled, Melt.fitting_append, Melt.fitting_append,
      Melt.fitting_append, Melt.fitting_bracketed (steady_columnList columns) someColumns,
      Melt.fitting_bracketed (steady_placeholderList columns) somePlaceholders]
    rfl

theorem bare_columns : ∀ token ∈ bracketed (columnList columns), token.IsBare :=
  bare_bracketed (List.forall_mem_map.mpr fun _ _ => ⟨rfl, rfl, rfl⟩)

theorem bare_placeholders : ∀ token ∈ bracketed (placeholderList columns), token.IsBare :=
  bare_bracketed (List.forall_mem_map.mpr fun _ _ => ⟨rfl, rfl, rfl⟩)

theorem bare_insertInto : ∀ token ∈ (Clause.insertInto table columns).spelled, token.IsBare := by
  simp only [Clause.spelled, List.forall_mem_append, List.forall_mem_cons]
  exact ⟨⟨⟨⟨⟨rfl, rfl, rfl⟩, ⟨rfl, rfl, rfl⟩, nofun⟩, bare_columns⟩,
    ⟨rfl, rfl, rfl⟩, ⟨rfl, rfl, rfl⟩, nofun⟩, bare_placeholders⟩

theorem demand_map {item : String → Token} {each : Nat}
    (waiting : ∀ name, (item name).waiting = each) :
    demand (columns.map item) = columns.length * each := by
  induction columns with
  | nil => rw [List.map_nil, demand_nil, List.length_nil, Nat.zero_mul]
  | cons name rest inductionHypothesis =>
      rw [List.map_cons, demand_cons, inductionHypothesis, waiting, List.length_cons, Nat.succ_mul,
        Nat.add_comm]

theorem demand_columns : demand (bracketed (columnList columns)) = 0 := by
  have silent (name : String) : Token.waiting (.column { name := name }) = 0 := rfl
  rw [columnList, demand_bracketed, demand_map silent, Nat.mul_zero]

/-- An inserted row needs one parameter for each of its columns. -/
theorem demand_insertInto : demand (Clause.insertInto table columns).spelled = columns.length := by
  have asking (_ : String) : Token.waiting (.ofTemplate "?") = 1 := by decide
  have target : demand [.keyword .insertInto, .table { logicalName := table }] = 0 := rfl
  have values : demand [.text "", .keyword .values] = 0 := rfl
  rw [Clause.spelled, demand_append, demand_append, demand_append, demand_columns, target, values,
    placeholderList, demand_bracketed, demand_map asking]
  omega

theorem fragmentsFrom_columnList (columns : List String) (numbering : Numbering) :
    fragmentsFrom context parameters numbering (columnList columns) =
      .ok (withCommas (columns.map fun name =>
        (.column { name := name }, context.dialect.quote name))) := by
  apply fragmentsFrom_separated
  induction columns with
  | nil => rfl
  | cons name rest inductionHypothesis =>
      rw [List.map_cons, fragmentsFrom, writeToken, ok_bind]
      dsimp only
      rw [inductionHypothesis]
      rfl

/-- Only a dialect that numbers its placeholders tells them apart. -/
theorem placeholder_of_bare {dialect : Dialect} (bare : dialect.numbersPlaceholders = false)
    (number : Nat) : dialect.placeholder number = "?" := by
  cases dialect with
  | postgreSql => cases bare
  | _ => rfl

theorem apply_placeholder {dialect : Dialect} {numbering : Numbering}
    (numbered : numbering.isNumbered = dialect.numbersPlaceholders) :
    numbering.apply "?" = (dialect.placeholder numbering.next, numbering.advance 1) := by
  have one : Template.placeholders "?" = 1 := by decide
  rw [Numbering.apply_eq, one, Numbering.written, numbered]
  cases dialect with
  | postgreSql =>
      have dollar : "$" = String.ofList ['$'] := rfl
      rw [Dialect.placeholder, if_pos rfl, dollar, Text.natural, ← String.ofList_append]
      exact congrArg (fun letters => (String.ofList letters, _)) (List.append_nil _)
  | _ => rfl

theorem fragmentsFrom_placeholderList (columns : List String) {numbering : Numbering}
    (numbered : numbering.isNumbered = context.dialect.numbersPlaceholders) :
    fragmentsFrom context parameters numbering (placeholderList columns) =
      .ok (withCommas ((List.range' numbering.next columns.length).map fun number =>
        (.ofTemplate "?", context.dialect.placeholder number))) := by
  apply fragmentsFrom_separated
  induction columns generalizing numbering with
  | nil => rfl
  | cons name rest inductionHypothesis =>
      -- Where nothing is numbered, the numbering stands still, and all placeholders are the same.
      have shifted : ((List.range' (numbering.advance 1).next rest.length).map fun number =>
            (ofTemplate "?", context.dialect.placeholder number)) =
          (List.range' (numbering.next + 1) rest.length).map fun number =>
            (ofTemplate "?", context.dialect.placeholder number) := by
        cases numbers : numbering.isNumbered with
        | true => rw [Numbering.advance, if_pos numbers]
        | false =>
            rw [numbers, eq_comm] at numbered
            simp only [placeholder_of_bare numbered, List.map_const', List.length_range']
      have own : writeToken context parameters numbering (ofTemplate "?") =
          .ok (context.dialect.placeholder numbering.next, numbering.advance 1) :=
        congrArg Except.ok (apply_placeholder numbered)
      have later := inductionHypothesis ((numbering.isNumbered_advance 1).trans numbered)
      rw [List.map_cons, fragmentsFrom, own, ok_bind]
      dsimp only
      rw [later, shifted]
      rfl

/-- The fragments of the statement that inserts a row. -/
def insertFragments (dialect : Dialect) (table : String) (columns : List String) :
    List (Token × String) :=
  [(.keyword .insertInto, "INSERT INTO"), (.table { logicalName := table }, dialect.quote table)] ++
    ((.bracket .opening, "(") ::
      withCommas (columns.map fun name => (.column { name := name }, dialect.quote name)) ++
        [(.bracket .closing, ")")]) ++
    [(.text "", ""), (.keyword .values, "VALUES")] ++
    ((.bracket .opening, "(") ::
      withCommas ((List.range' 1 columns.length).map fun number =>
        (.ofTemplate "?", dialect.placeholder number)) ++
        [(.bracket .closing, ")")])

/-- An inserted row is written fragment by fragment, when the name of the table is known. -/
theorem fragmentsFrom_insertInto
    (named : context.physicalName parameters { logicalName := table } = .ok table) :
    fragmentsFrom context parameters (.start context.dialect) (Clause.insertInto table columns).spelled =
      .ok (insertFragments context.dialect table columns) := by
  have target (numbering : Numbering) : fragmentsFrom context parameters numbering
      [.keyword .insertInto, .table { logicalName := table }] =
        .ok [(.keyword .insertInto, "INSERT INTO"),
          (.table { logicalName := table }, context.dialect.quote table)] := by
    rw [fragmentsFrom, writeToken, ok_bind]
    dsimp only
    rw [fragmentsFrom, writeToken, named]
    rfl
  have values (numbering : Numbering) :
      fragmentsFrom context parameters numbering [.text "", .keyword .values] =
        .ok [(.text "", ""), (.keyword .values, "VALUES")] := by
    rw [fragmentsFrom, writeToken, Numbering.apply_eq]
    simp [ok_bind, fragmentsFrom, writeToken, Keyword.word]
  have front := fragmentsFrom_append (fragmentsFrom_append (target (.start context.dialect))
    (fragmentsFrom_bracketed (fragmentsFrom_columnList columns _))) (values _)
  have noneInTarget : ([.keyword .insertInto, .table { logicalName := table }].map
      Token.placeholders).sum = 0 := rfl
  have noneInValues : ([.text "", .keyword .values].map Token.placeholders).sum = 0 := by decide
  have numbered : (Numbering.start context.dialect).isNumbered =
    context.dialect.numbersPlaceholders := rfl
  apply fragmentsFrom_append front
  rw [List.map_append, List.map_append, List.sum_append, List.sum_append,
    demand_of_bare bare_columns, demand_columns, noneInTarget, noneInValues, Numbering.advance_zero]
  exact fragmentsFrom_bracketed (fragmentsFrom_placeholderList columns numbered)

/-- The text of the statement that inserts a row. -/
def insertText (dialect : Dialect) (table : String) (columns : List String) : String :=
  "INSERT INTO " ++ dialect.quote table ++ "(" ++ ", ".intercalate (columns.map dialect.quote) ++
    ") VALUES(" ++ ", ".intercalate ((List.range' 1 columns.length).map dialect.placeholder) ++ ")"

/-- The empty text puts a space between the two lists. -/
theorem join_insertFragments (dialect : Dialect) :
    join (insertFragments dialect table columns) = insertText dialect table columns := by
  have plainColumns : ∀ part ∈ columns.map fun name =>
      (Token.column { name := name }, dialect.quote name),
      part.1.isBracket = false ∧ part.1.isComma = false :=
    List.forall_mem_map.mpr fun _ _ => ⟨rfl, rfl⟩
  have plainPlaceholders : ∀ part ∈ (List.range' 1 columns.length).map fun number =>
      (Token.ofTemplate "?", dialect.placeholder number),
      part.1.isBracket = false ∧ part.1.isComma = false :=
    List.forall_mem_map.mpr fun _ _ => ⟨rfl, rfl⟩
  rw [insertFragments]
  simp only [List.cons_append, List.nil_append, List.append_assoc]
  rw [join, join, join_bracket_cons, join_withCommas plainColumns, join_bracket_cons, join, join,
    join_bracket_cons, join_withCommas plainPlaceholders, join_bracket_cons, List.map_map, List.map_map]
  have behindLead : gap (.keyword .insertInto) (.table { logicalName := table }) = " " := rfl
  have behindTable : gap (.table { logicalName := table }) (.bracket .opening) = "" := rfl
  have behindText : gap (.text "") (.keyword .values) = " " := rfl
  have behindValues : gap (.keyword .values) (.bracket .opening) = "" := rfl
  have lead : "INSERT INTO" ++ " " = "INSERT INTO " := rfl
  have between : ")" ++ (" " ++ ("VALUES" ++ "(")) = ") VALUES(" := rfl
  unfold insertText
  rw [behindLead, behindTable, behindText, behindValues, join]
  simp only [← lead, ← between, String.append_assoc, String.empty_append, String.append_empty]
  rfl

/-- The statement begins with a word and ends with a bracket, so there is nothing to trim. -/
theorem trim_insertText (dialect : Dialect) :
    Text.trim (insertText dialect table columns) = insertText dialect table columns := by
  have split : ∃ letters, (insertText dialect table columns).toList = 'I' :: letters ++ [')'] := by
    unfold insertText
    simp only [String.toList_append]
    exact ⟨_, rfl⟩
  obtain ⟨letters, split⟩ := split
  rw [Text.trim, split, Text.trimLetters_of_shown_ends (by decide) letters (by decide), ← split,
    String.ofList_toList]

/-- The name of a table that is not sharded in the context is its logical name. -/
theorem physicalName_of_unsharded
    (unsharded : ∀ locator database, context.topology = some locator →
      context.database = some database → locator.isSharded database table = false) :
    context.physicalName parameters { logicalName := table } = .ok table := by
  rw [Context.physicalName]
  split
  · rename_i locator database chosen within
    rw [unsharded locator database chosen within]
    rfl
  · rfl

theorem visible_insertInto :
    visible (Clause.insertInto table columns).spelled = (Clause.insertInto table columns).spelled :=
  visible_of_alive fun token member => (bare_insertInto token member).alive

theorem render_insertInto (enough : context.supply.length = columns.length)
    (named : ∀ parameters, context.physicalName parameters { logicalName := table } = .ok table) :
    render context (Clause.insertInto table columns).spelled =
      .ok ⟨insertText context.dialect table columns,
        .ofList (context.supply.map Parameter.toNamedValue)⟩ := by
  have paired : pairFrom 0 context.supply (Clause.insertInto table columns).spelled = .ok _ :=
    pairFrom_of_bare bare_insertInto (by rw [enough, demand_insertInto])
  rw [render_eq_fragments, visible_insertInto, paired, ok_mapError, ok_bind,
    fragmentsFrom_insertInto (named _), ok_bind, join_insertFragments, trim_insertText]

end InsertedRow

/-- A step that sets up the context or the melting. -/
inductive Step.IsSetup : Step → Prop where
  | context (change : Context.Change) : IsSetup (.context change)
  | withoutMelting : IsSetup .withoutMelting

namespace Composer

variable {composer : Composer} {table : String} {columns : List String}

/-- Setting up a composer touches no token and is no misuse. -/
theorem run_setup (composer : Composer) {setup : List Step} (only : ∀ step ∈ setup, step.IsSetup) :
    (composer.run setup).tokens = composer.tokens ∧
      (composer.run setup).misuse = composer.misuse := by
  induction setup generalizing composer with
  | nil => exact ⟨rfl, rfl⟩
  | cons step rest inductionHypothesis =>
      rw [List.forall_mem_cons] at only
      obtain ⟨tokens, misuse⟩ := inductionHypothesis (composer.after step) only.2
      rw [run_cons, tokens, misuse]
      cases only.1 <;> exact ⟨rfl, rfl⟩

/-- Whether the composer melts or not, all tokens of an inserted row are rendered. -/
theorem build_insertInto (notEmpty : columns ≠ [])
    (tokens : composer.tokens = (Clause.insertInto table columns).spelled)
    (notMisused : composer.misuse = none) :
    composer.build = render composer.context (Clause.insertInto table columns).spelled := by
  have final : composer.finalTokens = .ok (Clause.insertInto table columns).spelled := by
    rw [finalTokens, tokens, Melt.melt_of_wellFormed (wellFormed_insertInto table notEmpty), ite_self]
  rw [build, notMisused, final]
  rfl

theorem tokens_of_insertedRow {topology : Option Locator} {before after : List Step}
    (setup : ∀ step ∈ before ++ after, step.IsSetup)
    (composed : composer = (fresh topology).run (before ++ .append (.insertInto table columns) :: after)) :
    composer.tokens = (Clause.insertInto table columns).spelled ∧ composer.misuse = none := by
  rw [List.forall_mem_append] at setup
  have split : composer =
      (((fresh topology).run before).append (.insertInto table columns)).run after := by
    rw [composed, run_append]
    rfl
  obtain ⟨beforeTokens, beforeMisuse⟩ := run_setup (fresh topology) setup.1
  obtain ⟨afterTokens, afterMisuse⟩ :=
    run_setup (((fresh topology).run before).append (.insertInto table columns)) setup.2
  rw [split, afterTokens, afterMisuse]
  exact ⟨congrArg (· ++ _) beforeTokens, beforeMisuse⟩

/-- A fresh composer is set up in any way, before or after a row is inserted into a table that is not sharded.
The statement lists the columns and as many placeholders, numbered from one on. Its parameters are those of
the context, in their order and with their names, and get the indices from one on. When these are not as many as
the columns, it is refused. -/
theorem build_of_insertedRow {topology : Option Locator} {before after : List Step}
    (setup : ∀ step ∈ before ++ after, step.IsSetup) (notEmpty : columns ≠ [])
    (composed : composer = (fresh topology).run (before ++ .append (.insertInto table columns) :: after))
    (unsharded : ∀ locator database, composer.context.topology = some locator →
      composer.context.database = some database → locator.isSharded database table = false) :
    let dialect := composer.context.dialect
    let supply := composer.context.supply
    (supply.length = columns.length → ∃ statement, composer.build = .ok statement ∧
      statement.sql = "INSERT INTO " ++ dialect.quote table ++ "(" ++
        ", ".intercalate (columns.map dialect.quote) ++ ") VALUES(" ++
        ", ".intercalate ((List.range' 1 columns.length).map dialect.placeholder) ++ ")" ∧
      statement.parameters.contents = supply.map Parameter.toNamedValue ∧
      statement.parameters.entries.map Parameter.index = List.range' 1 columns.length) ∧
    (supply.length ≠ columns.length → ∃ cause, composer.build = .error (.state cause)) := by
  intro dialect supply
  obtain ⟨tokens, notMisused⟩ := tokens_of_insertedRow setup composed
  rw [build_insertInto notEmpty tokens notMisused]
  constructor
  · intro enough
    have rendered := render_insertInto enough fun _ => physicalName_of_unsharded unsharded
    have contents := Parameters.contents_ofList (supply.map Parameter.toNamedValue)
    have size : (Parameters.ofList (supply.map Parameter.toNamedValue)).size = columns.length := by
      rw [← Parameters.length_contents, contents, List.length_map, enough]
    refine ⟨_, rendered, rfl, contents, ?_⟩
    rw [← size]
    exact indexed_of_render rendered
  · intro other
    obtain ⟨cause, failed⟩ := pairFrom_eq_error_of_bare bare_insertInto
      (fun enough => other (enough.trans demand_insertInto))
    rw [← visible_insertInto] at failed
    exact ⟨cause, render_of_unpaired failed⟩

/-- A parameter without a name, and one with a name. -/
def person : Parameters := .ofList [⟨none, .integer 7⟩, ⟨some "full_name", .text "Ada"⟩]

/-- A composer that inserts a person with two columns and attaches the two parameters last. -/
def insertedPerson : Composer :=
  (fresh none).run
    [.context (.dialect .postgreSql), .append (.insertInto "person" ["id", "name"]), .withoutMelting,
      .context (.parameters person)]

theorem build_of_insertedPerson :
    ∃ statement, insertedPerson.build = .ok statement ∧
      statement.sql = "INSERT INTO \"person\"(\"id\", \"name\") VALUES($1, $2)" ∧
      statement.parameters.contents = [⟨none, .integer 7⟩, ⟨some "full_name", .text "Ada"⟩] ∧
      statement.parameters.entries.map Parameter.index = [1, 2] := by
  have setup : ∀ step ∈ [Step.context (.dialect .postgreSql)] ++ [.withoutMelting,
      .context (.parameters person)], step.IsSetup := by
    simp only [List.cons_append, List.nil_append, List.forall_mem_cons]
    exact ⟨.context _, .withoutMelting, .context _, fun _ none => absurd none List.not_mem_nil⟩
  have composed : insertedPerson = (fresh none).run ([.context (.dialect .postgreSql)] ++
      .append (.insertInto "person" ["id", "name"]) :: [.withoutMelting,
        .context (.parameters person)]) := rfl
  have noTopology : insertedPerson.context.topology = none := rfl
  have unsharded : ∀ locator database, insertedPerson.context.topology = some locator →
      insertedPerson.context.database = some database →
        locator.isSharded database "person" = false := by
    rw [noTopology]
    exact fun _ _ => nofun
  have asked : insertedPerson.context.supply.length = ["id", "name"].length := rfl
  have dialect : insertedPerson.context.dialect = .postgreSql := rfl
  obtain ⟨statement, built, text, contents, indices⟩ :=
    (build_of_insertedRow setup (List.cons_ne_nil "id" ["name"]) composed unsharded).1 asked
  rw [dialect] at text
  exact ⟨statement, built, text, contents, indices⟩

end Composer

end SqlTemplate
