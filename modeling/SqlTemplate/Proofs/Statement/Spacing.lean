import Mathlib.Algebra.GroupWithZero.Nat
import Mathlib.Logic.Relation
import SqlTemplate.Proofs.Statement.Fragments

/-!
This file says where the spaces of a statement stand. They stand between its tokens, and the one that is written
behind the last token is trimmed. Tokens that are left out are neither seen nor spaced.
-/

namespace SqlTemplate

namespace Statement

/-- The gap is empty beside a bracket and before a comma. -/
theorem gap_eq (token next : Token) :
    gap token next =
      if token.isBracket ∨ next.isBracket ∨ next = .keyword .comma then "" else " " := by
  have comma : next.isComma = true ↔ next = .keyword .comma := by
    cases next with
    | keyword word => cases word <;> simp [Token.isComma]
    | _ => simp [Token.isComma]
  simp only [gap, Bool.or_eq_true, or_assoc, comma]

/-- The gaps stand between the fragments. -/
theorem join_zip {tokens : List Token} {fragments : List String}
    (size : fragments.length = tokens.length) :
    join (tokens.zip fragments) =
      String.join
        (List.zipWith (· ++ ·) ("" :: List.zipWith gap tokens tokens.tail) fragments) := by
  induction tokens generalizing fragments with
  | nil =>
      rw [List.eq_nil_of_length_eq_zero size]
      rfl
  | cons token rest inductionHypothesis =>
      obtain ⟨fragment, others, rfl⟩ := List.exists_cons_of_length_eq_add_one size
      cases rest with
      | nil =>
          rw [List.eq_nil_of_length_eq_zero (Nat.succ.inj size)]
          simp [join]
      | cons next later =>
          obtain ⟨second, more, rfl⟩ := List.exists_cons_of_length_eq_add_one (Nat.succ.inj size)
          have tail := inductionHypothesis (Nat.succ.inj size)
          rw [List.zip_cons_cons] at tail
          rw [List.zip_cons_cons, List.zip_cons_cons, join, tail]
          simp [String.append_assoc]

/-- Each fragment is written for its token, and its first placeholder comes behind those of the tokens before. -/
theorem writeToken_of_fragmentsFrom {context : Context} {parameters : Parameters}
    {numbering : Numbering} {tokens : List Token} {parts : List (Token × String)}
    (written : fragmentsFrom context parameters numbering tokens = .ok parts) :
    parts = tokens.zip (parts.map Prod.snd) ∧ parts.length = tokens.length ∧
      ∀ place token, tokens[place]? = some token → ∃ fragment after,
        (parts.map Prod.snd)[place]? = some fragment ∧
        writeToken context parameters
          (numbering.advance ((tokens.take place).map Token.placeholders).sum) token =
            .ok (fragment, after) := by
  induction tokens generalizing numbering parts with
  | nil =>
      cases written
      exact ⟨rfl, rfl, nofun⟩
  | cons first rest inductionHypothesis =>
      obtain ⟨⟨fragment, next⟩, own, others⟩ := (bind_eq_ok_iff _ _ _).mp written
      obtain ⟨later, laterWritten, whole⟩ := (bind_eq_ok_iff _ _ _).mp others
      cases whole
      obtain rfl := numbering_of_writeToken own
      obtain ⟨zipped, size, each⟩ := inductionHypothesis laterWritten
      refine ⟨?_, congrArg Nat.succ size, ?_⟩
      · rw [List.map_cons, List.zip_cons_cons, ← zipped]
      · intro place token found
        cases place with
        | zero =>
            cases found
            exact ⟨fragment, _, rfl, by rw [List.take_zero, List.map_nil, List.sum_nil,
              Numbering.advance_zero, own]⟩
        | succ place =>
            obtain ⟨laterFragment, after, located, laterOwn⟩ := each place token found
            refine ⟨laterFragment, after, located, ?_⟩
            rw [List.take_succ_cons, List.map_cons, List.sum_cons, Numbering.advance_add]
            exact laterOwn

/-- A statement is the trimmed join of fragments, one for each token that is not left out. -/
theorem exists_fragments_of_render {context : Context} {tokens : List Token} {statement : Statement}
    (rendered : render context tokens = .ok statement) :
    ∃ fragments : List String, fragments.length = (visible tokens).length ∧
      (∀ place token, (visible tokens)[place]? = some token → ∃ fragment after,
        fragments[place]? = some fragment ∧
        writeToken context statement.parameters ((Numbering.start context.dialect).advance
          (((visible tokens).take place).map Token.placeholders).sum) token =
            .ok (fragment, after)) ∧
      statement.sql = Text.trim (join ((visible tokens).zip fragments)) := by
  rw [render_eq_fragments] at rendered
  obtain ⟨entries, -, later⟩ := (bind_eq_ok_iff _ _ _).mp rendered
  obtain ⟨parts, written, whole⟩ := (bind_eq_ok_iff _ _ _).mp later
  cases whole
  obtain ⟨zipped, size, each⟩ := writeToken_of_fragmentsFrom written
  refine ⟨parts.map Prod.snd, ?_, each, ?_⟩
  · rw [List.length_map, size]
  · rw [← zipped]

/-- One token more is left out. -/
inductive LeavesOut : List Token → List Token → Prop where
  | insert (before after : List Token) : LeavesOut (before ++ after) (before ++ .omitted :: after)

/-- Tokens that are left out are not shown. -/
theorem visible_of_leavesOut {tokens others : List Token}
    (leftOut : Relation.EqvGen LeavesOut tokens others) : visible tokens = visible others := by
  induction leftOut with
  | rel tokens others leavesOut =>
      cases leavesOut
      simp [visible]
  | refl tokens => rfl
  | symm tokens others _ inductionHypothesis => exact inductionHypothesis.symm
  | trans tokens others last _ _ first second => exact first.trans second

/-- A statement is the trimmed text of its fragments, one for each token that is not left out, with nothing between
two of them when one of the two tokens is a bracket or the second one a comma, and with one space between them
otherwise. An empty text is a fragment like any other, and a space follows a comma unless a bracket or another comma
comes next. Whatever is left out or put back in makes no difference to the statement, its parameters or the fault. -/
theorem spacing_of_render (context : Context) (tokens : List Token) :
    let shown := tokens.filter fun token => token ≠ .omitted
    let between (token next : Token) : String :=
      if token.isBracket ∨ next.isBracket ∨ next = .keyword .comma then "" else " "
    (∀ statement, render context tokens = .ok statement → ∃ fragments : List String,
      fragments.length = shown.length ∧
      (∀ place token, shown[place]? = some token → ∃ fragment after,
        fragments[place]? = some fragment ∧
        writeToken context statement.parameters ((Numbering.start context.dialect).advance
          ((shown.take place).map Token.placeholders).sum) token = .ok (fragment, after)) ∧
      statement.sql = Text.trim (String.join
        (List.zipWith (· ++ ·) ("" :: List.zipWith between shown shown.tail) fragments))) ∧
    (∀ parameters numbering,
      writeToken context parameters numbering (.text "") = .ok ("", numbering)) ∧
    (∀ token, between token (.text "") = if token.isBracket then "" else " ") ∧
    (∀ next, between (.keyword .comma) next =
      if next.isBracket ∨ next = .keyword .comma then "" else " ") ∧
    ∀ others, Relation.EqvGen LeavesOut tokens others →
      render context others = render context tokens := by
  intro shown between
  have gaps : gap = between := by
    funext token next
    exact gap_eq token next
  refine ⟨?_, ?_, ?_, ?_, ?_⟩
  · intro statement rendered
    obtain ⟨fragments, size, each, joined⟩ := exists_fragments_of_render rendered
    refine ⟨fragments, size, each, ?_⟩
    rw [joined, join_zip size, gaps]
    rfl
  · intro parameters numbering
    simp [writeToken, Numbering.apply]
  · intro token
    exact if_congr (by simp [Token.isBracket]) rfl rfl
  · intro next
    exact if_congr (by simp [Token.isBracket]) rfl rfl
  · intro others leftOut
    rw [render, render, visible_of_leavesOut leftOut]

/-- A list in brackets behind a comma, with empty texts and tokens that are left out. -/
def spacedTokens : List Token :=
  [.text "a", .omitted, .keyword .comma, .text "", .omitted, .bracket .opening, .text " b",
    .bracket .closing, .keyword .comma, .text "c", .text ""]

theorem spacing_of_spacedTokens :
    render {} spacedTokens = .ok ⟨"a, ( b), c", .empty⟩ ∧
      render {} (.omitted :: spacedTokens) = .ok ⟨"a, ( b), c", .empty⟩ ∧
      ∃ fragments : List String, fragments.length = 9 ∧ fragments[2]? = some "" := by
  have rendered : render {} spacedTokens = .ok ⟨"a, ( b), c", .empty⟩ := rfl
  obtain ⟨spaced, empty, -, -, same⟩ := spacing_of_render {} spacedTokens
  obtain ⟨fragments, size, each, -⟩ := spaced _ rendered
  obtain ⟨fragment, after, located, written⟩ := each 2 (.text "") rfl
  rw [empty] at written
  cases written
  exact ⟨rendered, (same _ (.rel _ _ (.insert [] spacedTokens))).trans rendered,
    fragments, size, located⟩

/-- A comma is not followed by a space when another comma comes next, although that is no bracket. -/
theorem render_of_doubledComma :
    let comma : Token := .keyword .comma
    comma.isBracket = false ∧
      render {} [.text "a", comma, comma, .text "b"] = .ok ⟨"a,, b", .empty⟩ ∧
      render {} [.text "a", comma, comma, .text "b"] ≠ .ok ⟨"a, , b", .empty⟩ := by
  decide

end Statement

end SqlTemplate
