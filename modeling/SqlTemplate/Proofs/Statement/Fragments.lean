import SqlTemplate.Proofs.Outcome
import SqlTemplate.Proofs.Statement.Collected
import SqlTemplate.Proofs.Text.Trim
import SqlTemplate.Statement.Basic

/-!
This file takes the writing of a statement apart. What is written for one token depends on the numbering so far
only, and the numbering goes on by the placeholders of the token. The separators behind the tokens are gaps
between them, but for the last one, which is trimmed.
-/

namespace SqlTemplate

namespace Template

/-- Each placeholder becomes a dollar sign and a number, counted on from `next`. -/
def numberFrom : (next : Nat) → List Char → List Char
  | _, [] => []
  | next, letter :: rest =>
      if letter = placeholder then
        '$' :: Text.naturalLetters next ++ numberFrom (next + 1) rest
      else letter :: numberFrom next rest

theorem numberFrom_placeholder (next : Nat) (rest : List Char) :
    numberFrom next (placeholder :: rest) =
      '$' :: Text.naturalLetters next ++ numberFrom (next + 1) rest :=
  if_pos rfl

theorem numberFrom_cons_of_ne {letter : Char} (other : letter ≠ placeholder) (next : Nat)
    (rest : List Char) : numberFrom next (letter :: rest) = letter :: numberFrom next rest :=
  if_neg other

/-- Letters without a placeholder stay as they are. -/
theorem numberFrom_of_not_mem {letters : List Char} (unmarked : placeholder ∉ letters) (next : Nat) :
    numberFrom next letters = letters := by
  induction letters generalizing next with
  | nil => rfl
  | cons letter rest inductionHypothesis =>
      rw [List.mem_cons, not_or] at unmarked
      rw [numberFrom_cons_of_ne (Ne.symm unmarked.1), inductionHypothesis unmarked.2]

/-- The placeholders of the first part are numbered first. -/
theorem numberFrom_append (next : Nat) (first second : List Char) :
    numberFrom next (first ++ second) =
      numberFrom next first ++ numberFrom (next + first.count placeholder) second := by
  induction first generalizing next with
  | nil => rfl
  | cons letter rest inductionHypothesis =>
      rw [List.cons_append, numberFrom, numberFrom, List.count_cons]
      by_cases marked : letter = placeholder
      · have count : next + 1 + rest.count placeholder = next + (rest.count placeholder + 1) := by
          omega
        simp [marked, inductionHypothesis, count]
      · simp [marked, inductionHypothesis]

end Template

namespace Statement

namespace Numbering

/-- The letters of a template as they are written. -/
def written (numbering : Numbering) (letters : List Char) : List Char :=
  if numbering.isNumbered then Template.numberFrom numbering.next letters else letters

/-- The numbering behind so many placeholders. A numbering that numbers nothing does not count. -/
def advance (numbering : Numbering) (placeholders : Nat) : Numbering :=
  if numbering.isNumbered then { numbering with next := numbering.next + placeholders }
  else numbering

variable (numbering : Numbering)

@[simp] theorem isNumbered_advance (placeholders : Nat) :
    (numbering.advance placeholders).isNumbered = numbering.isNumbered := by
  rw [advance]
  split <;> rfl

@[simp] theorem advance_zero : numbering.advance 0 = numbering := by
  rw [advance]
  split <;> rfl

theorem advance_add (first second : Nat) :
    numbering.advance (first + second) = (numbering.advance first).advance second := by
  cases numbered : numbering.isNumbered <;> simp [advance, numbered, Nat.add_assoc]

@[simp] theorem written_nil : numbering.written [] = [] := by
  rw [written]
  split <;> rfl

/-- The placeholders of the second part are counted on from those of the first. -/
theorem written_append (first second : List Char) :
    numbering.written (first ++ second) =
      numbering.written first ++
        (numbering.advance (first.count Template.placeholder)).written second := by
  cases numbered : numbering.isNumbered <;>
    simp [written, advance, numbered, Template.numberFrom_append]

/-- Rewriting the letters counts their placeholders on the way. -/
theorem rewrite_eq (next : Nat) (letters : List Char) :
    rewrite next letters =
      (Template.numberFrom next letters, next + letters.count Template.placeholder) := by
  induction letters generalizing next with
  | nil => rfl
  | cons letter rest inductionHypothesis =>
      by_cases marked : letter = Template.placeholder
      · subst marked
        rw [rewrite, if_pos rfl, inductionHypothesis, Template.numberFrom_placeholder,
          List.count_cons_self, Nat.add_right_comm, Nat.add_assoc]
      · rw [rewrite, if_neg marked, inductionHypothesis, Template.numberFrom_cons_of_ne marked,
          List.count_cons_of_ne marked]

/-- A template is written as its letters are, and the numbering goes on by its placeholders. -/
theorem apply_eq (template : String) :
    numbering.apply template =
      (String.ofList (numbering.written template.toList),
        numbering.advance (Template.placeholders template)) := by
  cases numbered : numbering.isNumbered with
  | false => simp [apply, written, advance, numbered]
  | true =>
      by_cases marked : Template.placeholder ∈ template.toList
      · simp [apply, written, advance, numbered, marked, rewrite_eq, Template.placeholders]
      · have none : Template.placeholders template = 0 := List.count_eq_zero.mpr marked
        simp [apply, written, numbered, marked, none, Template.numberFrom_of_not_mem marked]

end Numbering

/-- The numbering goes on by the placeholders of a token. -/
theorem numbering_of_writeToken {context : Context} {parameters : Parameters}
    {numbering after : Numbering} {token : Token} {fragment : String}
    (written : writeToken context parameters numbering token = .ok (fragment, after)) :
    after = numbering.advance token.placeholders := by
  cases token with
  | text content | expression body =>
      rw [writeToken, Numbering.apply_eq] at written
      cases written
      rfl
  | table reference =>
      obtain ⟨physicalName, -, whole⟩ := (bind_eq_ok_iff _ _ _).mp written
      cases whole
      exact numbering.advance_zero.symm
  | columnExpression columnName body =>
      rw [writeToken, mapError_eq_ok_iff, writeColumnTemplate] at written
      split at written
      · cases written
      · rw [Numbering.apply_eq] at written
        cases written
        rfl
  | _ =>
      cases written
      exact numbering.advance_zero.symm

/-- Each token beside what is written for it. -/
def fragmentsFrom (context : Context) (parameters : Parameters) (numbering : Numbering) :
    List Token → Except Fault (List (Token × String))
  | [] => .ok []
  | token :: rest => do
      let (fragment, after) ← writeToken context parameters numbering token
      let later ← fragmentsFrom context parameters after rest
      .ok ((token, fragment) :: later)

/-- The fragments with their separators. -/
def joinTrailing : List (Token × String) → String
  | [] => ""
  | part :: rest => part.2 ++ separator part.1 (rest.head?.map Prod.fst) ++ joinTrailing rest

/-- What stands between two tokens. -/
def gap (token next : Token) : String :=
  if token.isBracket || next.isBracket || next.isComma then "" else " "

/-- The fragments with the gaps between them. -/
def join : List (Token × String) → String
  | [] => ""
  | [last] => last.2
  | fragment :: next :: rest => fragment.2 ++ gap fragment.1 next.1 ++ join (next :: rest)

/-- The fragments belong to the tokens. -/
theorem map_fst_fragmentsFrom {context : Context} {parameters : Parameters} {numbering : Numbering}
    {tokens : List Token} {parts : List (Token × String)}
    (written : fragmentsFrom context parameters numbering tokens = .ok parts) :
    parts.map Prod.fst = tokens := by
  induction tokens generalizing numbering parts with
  | nil =>
      cases written
      rfl
  | cons token rest inductionHypothesis =>
      obtain ⟨⟨fragment, after⟩, -, others⟩ := (bind_eq_ok_iff _ _ _).mp written
      obtain ⟨later, laterWritten, whole⟩ := (bind_eq_ok_iff _ _ _).mp others
      cases whole
      rw [List.map_cons, inductionHypothesis laterWritten]

/-- The fragments are written behind what is written already. -/
theorem writeFrom_eq (context : Context) (parameters : Parameters) (numbering : Numbering)
    (front : String) (tokens : List Token) :
    writeFrom context parameters numbering front tokens =
      (fragmentsFrom context parameters numbering tokens).map fun parts =>
        front ++ joinTrailing parts := by
  induction tokens generalizing numbering front with
  | nil => exact congrArg Except.ok (String.append_empty).symm
  | cons token rest inductionHypothesis =>
      rw [writeFrom, fragmentsFrom]
      cases writeToken context parameters numbering token with
      | error fault => rfl
      | ok written =>
          obtain ⟨fragment, after⟩ := written
          rw [ok_bind, ok_bind]
          dsimp only
          rw [inductionHypothesis]
          cases laterWritten : fragmentsFrom context parameters after rest with
          | error fault => rfl
          | ok later =>
              have next : later.head?.map Prod.fst = rest.head? := by
                rw [← List.head?_map, map_fst_fragmentsFrom laterWritten]
              rw [ok_bind]
              simp only [Except.map, joinTrailing, next, String.append_assoc]

theorem separator_some (token next : Token) : separator token (some next) = gap token next := by
  rw [separator, gap, Option.any_some, Bool.or_assoc]

/-- The separators are the gaps, and one more behind the last token. -/
theorem joinTrailing_eq (parts : List (Token × String)) :
    joinTrailing parts =
      join parts ++ (parts.getLast?.map fun last => separator last.1 none).getD "" := by
  induction parts with
  | nil => rfl
  | cons part rest inductionHypothesis =>
      cases rest with
      | nil => simp [joinTrailing, join]
      | cons next later =>
          rw [joinTrailing, inductionHypothesis, List.head?_cons, Option.map_some, separator_some,
            join, List.getLast?_cons_cons, String.append_assoc]
          simp only [String.append_assoc]

/-- What stands behind the last token is trimmed. -/
theorem trim_joinTrailing (parts : List (Token × String)) :
    Text.trim (joinTrailing parts) = Text.trim (join parts) := by
  rw [joinTrailing_eq]
  cases parts.getLast? with
  | none => simp
  | some last =>
      rw [Option.map_some, Option.getD_some, separator]
      split
      · simp
      · have space : Text.isBlank ' ' = true := by decide
        simp [Text.trim, Text.trimLetters_append_blank _ space]

/-- A statement is rendered by pairing its placeholders, writing a fragment for each of its tokens, and joining
the fragments. -/
theorem render_eq_fragments (context : Context) (tokens : List Token) :
    render context tokens =
      ((pairFrom 0 context.supply (visible tokens)).mapError Fault.state >>= fun entries =>
        fragmentsFrom context (.ofList entries) (.start context.dialect) (visible tokens) >>=
          fun parts => .ok ⟨Text.trim (join parts), .ofList entries⟩) := by
  rw [render, collect_eq]
  cases pairFrom 0 context.supply (visible tokens) with
  | error fault => rfl
  | ok entries =>
      change (writeFrom context (.ofList entries) _ "" _ >>= _) = _
      rw [writeFrom_eq]
      cases written : fragmentsFrom context (.ofList entries) (.start context.dialect)
          (visible tokens) with
      | error fault =>
          rw [ok_mapError, ok_bind, written]
          rfl
      | ok parts =>
          rw [ok_mapError, ok_bind, written, ok_bind, ← trim_joinTrailing]
          simp only [Except.map, ok_bind, String.empty_append]

end Statement

end SqlTemplate
