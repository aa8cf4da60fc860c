import Mathlib.Algebra.GroupWithZero.Nat
import SqlTemplate.Proofs.Statement.Slot

/-!
This file takes the writing of a statement apart. An outline says what stands in the statement and where
its templates are; only then are the placeholders of the templates written, counted from the first to the
last.
-/

namespace SqlTemplate

namespace Statement

/-- A stretch of a statement stands as it is, or is a template with placeholders. -/
inductive Stretch where
  | fixed (text : String)
  | template (letters : List Char)
  deriving DecidableEq, Repr

namespace Stretch

/-- The number of placeholders in the templates. -/
def placeholders : List Stretch → Nat
  | [] => 0
  | .fixed _ :: rest => placeholders rest
  | .template letters :: rest => letters.count Template.placeholder + placeholders rest

/-- The letters of the stretches, with the placeholders numbered on from one template to the next. -/
def written (numbering : Numbering) : List Stretch → List Char
  | [] => []
  | .fixed text :: rest => text.toList ++ written numbering rest
  | .template letters :: rest =>
      numbering.written letters ++
        written (numbering.advance (letters.count Template.placeholder)) rest

theorem written_append (numbering : Numbering) (first second : List Stretch) :
    written numbering (first ++ second) =
      written numbering first ++ written (numbering.advance (placeholders first)) second := by
  induction first generalizing numbering with
  | nil => simp [written, placeholders]
  | cons stretch rest inductionHypothesis =>
      cases stretch with
      | fixed text => simp [written, placeholders, inductionHypothesis]
      | template letters =>
          simp [written, placeholders, inductionHypothesis, Numbering.advance_add]

theorem placeholders_append (first second : List Stretch) :
    placeholders (first ++ second) = placeholders first + placeholders second := by
  induction first with
  | nil => simp [placeholders]
  | cons stretch rest inductionHypothesis =>
      cases stretch with
      | fixed text => simp [placeholders, inductionHypothesis]
      | template letters => simp [placeholders, inductionHypothesis, Nat.add_assoc]

end Stretch

/-- The stretches of a token, when it is known how tables are named. -/
def stretches (dialect : Dialect) (named : TableRef → Except Fault String) :
    Token → Except Fault (List Stretch)
  | .text content => .ok [.template content.toList]
  | .keyword word => .ok [.fixed word.word]
  | .operator connective => .ok [.fixed connective.word]
  | .bracket half => .ok [.fixed half.sign]
  | .column reference =>
      .ok [.fixed (withAlias (dialect.style.quote reference.name) reference.shownAs)]
  | .table reference => do
      let physicalName ← named reference
      .ok [.fixed (writeTable dialect reference physicalName)]
  | .expression body => .ok [.template body.template.toList]
  | .columnExpression columnName body =>
      let slots := Template.slots body.template.toList
      if slots ≠ 1 then .error (.state (.columnSlots body.template slots))
      else
        let parts := Template.cut body.template.toList
        .ok [.template parts.1, .fixed (dialect.style.quote columnName), .template parts.2]
  | .omitted => .ok []

/-- Each token beside its stretches. -/
def outline (dialect : Dialect) (named : TableRef → Except Fault String) :
    List Token → Except Fault (List (Token × List Stretch))
  | [] => .ok []
  | token :: rest => do
      let own ← stretches dialect named token
      let later ← outline dialect named rest
      .ok ((token, own) :: later)

/-- The stretches of all tokens with the gaps between them. -/
def layOut : List (Token × List Stretch) → List Stretch
  | [] => []
  | [last] => last.2
  | part :: next :: rest => part.2 ++ .fixed (gap part.1 next.1) :: layOut (next :: rest)

/-- The outline with the placeholders written, token by token. -/
def fragments (numbering : Numbering) : List (Token × List Stretch) → List (Token × String)
  | [] => []
  | part :: rest =>
      (part.1, String.ofList (Stretch.written numbering part.2)) ::
        fragments (numbering.advance (Stretch.placeholders part.2)) rest

/-- The stretches of a token hold its placeholders. -/
theorem placeholders_of_stretches {dialect : Dialect} {named : TableRef → Except Fault String}
    {token : Token} {own : List Stretch} (outlined : stretches dialect named token = .ok own) :
    Stretch.placeholders own = token.placeholders := by
  cases token with
  | table reference =>
      obtain ⟨physicalName, -, whole⟩ := (bind_eq_ok_iff _ _ _).mp outlined
      cases whole
      rfl
  | columnExpression columnName body =>
      rw [stretches] at outlined
      split at outlined
      · cases outlined
      · rename_i one
        cases outlined
        have some : Template.slots body.template.toList ≠ 0 := by omega
        exact Template.count_cut some
  | _ =>
      cases outlined
      rfl

theorem placeholders_layOut (parts : List (Token × List Stretch)) :
    Stretch.placeholders (layOut parts) =
      (parts.map fun part => Stretch.placeholders part.2).sum := by
  induction parts with
  | nil => rfl
  | cons part rest inductionHypothesis =>
      cases rest with
      | nil => simp [layOut]
      | cons next later =>
          rw [layOut, Stretch.placeholders_append, Stretch.placeholders, inductionHypothesis]
          rfl

/-- Each part of an outline belongs to the token at its place. -/
theorem mem_outline {dialect : Dialect} {named : TableRef → Except Fault String}
    {tokens : List Token} {parts : List (Token × List Stretch)}
    (outlined : outline dialect named tokens = .ok parts) :
    parts.map Prod.fst = tokens ∧
      ∀ part ∈ parts, stretches dialect named part.1 = .ok part.2 := by
  induction tokens generalizing parts with
  | nil =>
      cases outlined
      exact ⟨rfl, fun _ => nofun⟩
  | cons token rest inductionHypothesis =>
      obtain ⟨own, ownOutlined, others⟩ := (bind_eq_ok_iff _ _ _).mp outlined
      obtain ⟨later, laterOutlined, whole⟩ := (bind_eq_ok_iff _ _ _).mp others
      cases whole
      obtain ⟨tokens, each⟩ := inductionHypothesis laterOutlined
      refine ⟨by rw [List.map_cons, tokens], ?_⟩
      rw [List.forall_mem_cons]
      exact ⟨ownOutlined, each⟩

/-- An outline holds the placeholders of its tokens. -/
theorem placeholders_of_outline {dialect : Dialect} {named : TableRef → Except Fault String}
    {tokens : List Token} {parts : List (Token × List Stretch)}
    (outlined : outline dialect named tokens = .ok parts) :
    Stretch.placeholders (layOut parts) = (tokens.map Token.placeholders).sum := by
  obtain ⟨rfl, each⟩ := mem_outline outlined
  rw [placeholders_layOut, List.map_map]
  congr 1
  exact List.map_congr_left fun part member => placeholders_of_stretches (each part member)

/-- A token is written as its stretches are. -/
theorem writeToken_eq (context : Context) (parameters : Parameters) (numbering : Numbering)
    (token : Token) :
    writeToken context parameters numbering token =
      (stretches context.dialect (context.physicalName parameters) token).map fun own =>
        (String.ofList (Stretch.written numbering own), numbering.advance token.placeholders) := by
  cases token with
  | text content | expression body =>
      rw [writeToken, Numbering.apply_eq, stretches]
      simp [Except.map, Stretch.written, Token.placeholders, Token.template?]
  | table reference =>
      rw [writeToken, stretches]
      cases context.physicalName parameters reference with
      | error fault => rfl
      | ok physicalName =>
          simp [ok_bind, Except.map, Stretch.written, Token.placeholders, Token.template?]
  | columnExpression columnName body =>
      rw [writeToken, stretches]
      by_cases one : Template.slots body.template.toList = 1
      · have some : Template.slots body.template.toList ≠ 0 := by omega
        rw [if_neg (not_not.mpr one),
          writeColumnTemplate_around _ numbering columnName (Template.eq_cut some) one, ok_mapError]
        simp [Except.map, Stretch.written, Token.placeholders, Token.template?]
      · rw [if_pos one, writeColumnTemplate_of_slots _ numbering columnName one]
        rfl
  | _ => simp [writeToken, stretches, Except.map, Stretch.written, Token.placeholders, Token.template?]

/-- The fragments of a statement are those of its outline. -/
theorem fragmentsFrom_eq (context : Context) (parameters : Parameters) (numbering : Numbering)
    (tokens : List Token) :
    fragmentsFrom context parameters numbering tokens =
      (outline context.dialect (context.physicalName parameters) tokens).map
        (fragments numbering) := by
  induction tokens generalizing numbering with
  | nil => rfl
  | cons token rest inductionHypothesis =>
      rw [fragmentsFrom, outline, writeToken_eq]
      cases own : stretches context.dialect (context.physicalName parameters) token with
      | error fault => rfl
      | ok parts =>
          have count := placeholders_of_stretches own
          rw [← count, ok_bind]
          change (fragmentsFrom context parameters (numbering.advance _) rest >>= _) = _
          rw [inductionHypothesis]
          cases outline context.dialect (context.physicalName parameters) rest <;> rfl

/-- Joining the fragments gives the letters of the laid out stretches. -/
theorem toList_join_fragments (numbering : Numbering) (parts : List (Token × List Stretch)) :
    (join (fragments numbering parts)).toList = Stretch.written numbering (layOut parts) := by
  induction parts generalizing numbering with
  | nil => rfl
  | cons part rest inductionHypothesis =>
      cases rest with
      | nil => simp [fragments, join, layOut]
      | cons second later =>
          have tail := inductionHypothesis (numbering.advance (Stretch.placeholders part.2))
          rw [fragments] at tail
          rw [fragments, fragments, join, layOut, Stretch.written_append, Stretch.written, ← tail]
          simp

/-- A statement is rendered by pairing its placeholders, outlining its tokens, and writing the outline. -/
theorem render_eq (context : Context) (tokens : List Token) :
    render context tokens =
      ((pairFrom 0 context.supply (visible tokens)).mapError Fault.state >>= fun entries =>
        outline context.dialect (context.physicalName (.ofList entries)) (visible tokens) >>=
          fun parts => .ok ⟨String.ofList (Text.trimLetters
            (Stretch.written (.start context.dialect) (layOut parts))), .ofList entries⟩) := by
  rw [render_eq_fragments]
  congr 1
  funext entries
  rw [fragmentsFrom_eq]
  cases outline context.dialect (context.physicalName (.ofList entries)) (visible tokens) with
  | error fault => rfl
  | ok parts =>
      have letters := toList_join_fragments (.start context.dialect) parts
      simp [Except.map, ok_bind, Text.trim, letters]

/-- When the placeholders cannot be paired, nothing is outlined. -/
theorem render_of_unpaired {context : Context} {tokens : List Token} {fault : StateFault}
    (unpaired : pairFrom 0 context.supply (visible tokens) = .error fault) :
    render context tokens = .error (.state fault) := by
  rw [render_eq, unpaired]
  rfl

/-- When the placeholders are paired, the statement is its outline, written. -/
theorem render_of_paired {context : Context} {tokens : List Token} {entries : List NamedValue}
    (paired : pairFrom 0 context.supply (visible tokens) = .ok entries) :
    render context tokens =
      (outline context.dialect (context.physicalName (.ofList entries)) (visible tokens) >>=
        fun parts => .ok ⟨String.ofList (Text.trimLetters
          (Stretch.written (.start context.dialect) (layOut parts))), .ofList entries⟩) := by
  rw [render_eq, paired]
  rfl

end Statement

end SqlTemplate
