import SqlTemplate.Proofs.Melt.Clauses
import SqlTemplate.Proofs.Melt.WellFormed

/-!
This file puts a group into any place of a statement. Around the group the statement melts as it does around an
operand, or as if nothing stood there when nothing is left of the group. Within its brackets the group melts
as it does alone.
-/

namespace SqlTemplate.Melt

open Nesting

/-- A phrase with a hole, which stands in front of the rest of its level, or behind a word or a group, or within
a group. -/
inductive Hole where
  | here (rest : Level Word)
  | behindWord (word : Word) (later : Hole)
  | behindGroup (inner : Level Word) (later : Hole)
  | within (inner : Hole) (rest : Level Word)

namespace Hole

/-- The tokens in front of the hole. -/
def before : Hole → List Token
  | here _ => []
  | behindWord word later => word.token :: later.before
  | behindGroup inner later => Token.bracketed (spelled inner) ++ later.before
  | within inner _ => .bracket .opening :: inner.before

/-- The tokens behind the hole. -/
def after : Hole → List Token
  | here rest => spelled rest
  | behindWord _ later => later.after
  | behindGroup _ later => later.after
  | within inner rest => inner.after ++ .bracket .closing :: spelled rest

/-- The phrase with a piece in its hole. -/
def fill (piece : Level Word) : Hole → Level Word
  | here rest => piece.append rest
  | behindWord word later => .item word (later.fill piece)
  | behindGroup inner later => .group inner (later.fill piece)
  | within inner rest => .group (inner.fill piece) rest

/-- The tokens of the piece stand between those around the hole. -/
theorem spelled_fill (hole : Hole) (piece : Level Word) :
    spelled (hole.fill piece) = hole.before ++ spelled piece ++ hole.after := by
  induction hole with
  | here rest => exact spelled_append piece rest
  | behindWord word later inductionHypothesis =>
      simp [fill, before, after, spelled, inductionHypothesis]
  | behindGroup inner later inductionHypothesis =>
      simp [fill, before, after, spelled, inductionHypothesis]
  | within inner rest inductionHypothesis =>
      simp [fill, before, after, spelled, Token.bracketed, inductionHypothesis]

end Hole

/-- A phrase has a hole between any two of its tokens. -/
theorem exists_hole (phrase : Level Word) {before after : List Token}
    (split : spelled phrase = before ++ after) :
    ∃ hole : Hole, hole.before = before ∧ hole.after = after := by
  induction phrase generalizing before after with
  | done =>
      obtain ⟨rfl, rfl⟩ := List.append_eq_nil_iff.mp split.symm
      exact ⟨.here .done, rfl, rfl⟩
  | item word rest inductionHypothesis =>
      cases before with
      | nil => exact ⟨.here (.item word rest), rfl, split⟩
      | cons first earlier =>
          obtain ⟨rfl, restSplit⟩ := List.cons.inj split
          obtain ⟨hole, rfl, rfl⟩ := inductionHypothesis restSplit
          exact ⟨.behindWord word hole, rfl, rfl⟩
  | group inner rest innerHypothesis restHypothesis =>
      cases before with
      | nil => exact ⟨.here (.group inner rest), rfl, split⟩
      | cons first earlier =>
          rw [spelled, Token.bracketed_append] at split
          obtain ⟨rfl, tokens⟩ := List.cons.inj split
          have within (behind : List Token) (innerSplit : spelled inner = earlier ++ behind)
              (afterSplit : after = behind ++ .bracket .closing :: spelled rest) :
              ∃ hole : Hole, hole.before = .bracket .opening :: earlier ∧ hole.after = after := by
            obtain ⟨hole, rfl, rfl⟩ := innerHypothesis innerSplit
            exact ⟨.within hole rest, rfl, afterSplit.symm⟩
          rcases List.append_eq_append_iff.mp tokens with
            ⟨between, earlierSplit, restSplit⟩ | ⟨behind, innerSplit, afterSplit⟩
          · cases between with
            -- The hole stands right in front of the closing bracket.
            | nil => exact within [] (by simp [earlierSplit]) restSplit.symm
            | cons closing between =>
                obtain ⟨rfl, behindSplit⟩ := List.cons.inj restSplit
                obtain ⟨hole, rfl, rfl⟩ := restHypothesis behindSplit
                exact ⟨.behindGroup inner hole, by simp [Hole.before, Token.bracketed, earlierSplit],
                  rfl⟩
          · exact within behind innerSplit afterSplit

/-- A piece stands for an operand, or for nothing, when its surroundings see just that and it melts the same in
all of them. -/
structure StandsFor (isOperand : Bool) (piece : Level Role) : Prop where
  outlook (rest : Level Role) :
    outlook (piece.append rest) = if isOperand then .fromOperand else outlook rest
  survey (operandBefore : Bool) (rest : Level Role) :
    survey operandBefore (piece.append rest) =
      survey false piece ++ survey (operandBefore || isOperand) rest

theorem standsFor_operand {word : Word} (operand : word.role = .operand) :
    StandsFor true (roles (.item word .done)) := by
  rw [roles, operand]
  exact ⟨fun _ => rfl, by simp [roles, Level.append, survey, stays, operandAfter]⟩

/-- Where nothing is put in, nothing stands. -/
theorem standsFor_nothing : StandsFor false .done where
  outlook _ := rfl
  survey operandBefore rest := by simp [Level.append, survey]

/-- A group stands for an operand when it has content, and else for nothing. -/
theorem standsFor_group (inner : Level Role) :
    StandsFor (outlook inner).hasContent (.group inner .done) where
  outlook _ := rfl
  survey operandBefore rest := by simp [Level.append, survey]

/-- Around the hole of a phrase the same stays for all pieces that stand for the same. -/
theorem Hole.exists_survey (hole : Hole) (isOperand operandBefore : Bool) :
    ∃ (shown : Outlook) (earlier later : List Bool),
      earlier.length = hole.before.length ∧ later.length = hole.after.length ∧
      ∀ piece, StandsFor isOperand (roles piece) →
        outlook (roles (hole.fill piece)) = shown ∧
        survey operandBefore (roles (hole.fill piece)) =
          earlier ++ survey false (roles piece) ++ later := by
  induction hole generalizing operandBefore with
  | here rest =>
      refine ⟨if isOperand then .fromOperand else outlook (roles rest), [],
        survey (operandBefore || isOperand) (roles rest), rfl, length_survey_roles rest _,
        fun piece stands => ?_⟩
      rw [fill, roles_append]
      exact ⟨stands.outlook (roles rest), stands.survey operandBefore (roles rest)⟩
  | behindWord word later inductionHypothesis =>
      obtain ⟨shown, earlier, behind, size, behindSize, each⟩ :=
        inductionHypothesis (operandAfter operandBefore word.role)
      refine ⟨shown.past word.role, stays operandBefore shown word.role :: earlier, behind,
        congrArg (· + 1) size, behindSize, fun piece stands => ?_⟩
      obtain ⟨sameOutlook, sameSurvey⟩ := each piece stands
      rw [fill, roles, outlook, survey, sameOutlook, sameSurvey]
      exact ⟨rfl, rfl⟩
  | behindGroup inner later inductionHypothesis =>
      let live := (outlook (roles inner)).hasContent
      obtain ⟨shown, earlier, behind, size, behindSize, each⟩ :=
        inductionHypothesis (operandBefore || live)
      refine ⟨shown.pastGroup (outlook (roles inner)),
        (live :: survey false (roles inner) ++ [live]) ++ earlier, behind, ?_, behindSize,
        fun piece stands => ?_⟩
      · simp [before, Token.bracketed, size, length_survey_roles]
      · obtain ⟨sameOutlook, sameSurvey⟩ := each piece stands
        rw [fill, roles, outlook, survey, sameOutlook, sameSurvey]
        exact ⟨rfl, by simp [live]⟩
  -- A level begins without an operand before it, and shows only its content outside of its brackets.
  | within inner rest inductionHypothesis =>
      obtain ⟨shown, earlier, behind, size, behindSize, each⟩ := inductionHypothesis false
      refine ⟨(outlook (roles rest)).pastGroup shown, shown.hasContent :: earlier,
        behind ++ shown.hasContent :: survey (operandBefore || shown.hasContent) (roles rest),
        congrArg (· + 1) size, ?_, fun piece stands => ?_⟩
      · simp [after, behindSize, length_survey_roles]
      · obtain ⟨sameOutlook, sameSurvey⟩ := each piece stands
        rw [fill, roles, outlook, survey, sameOutlook, sameSurvey]
        exact ⟨rfl, by simp⟩

/-- The tokens marked to stay are left. -/
theorem melt_of_survivors {tokens : List Token} {kept : List Bool}
    (result : survivors tokens = .ok kept) : melt tokens = .ok (select tokens kept) := by
  rw [melt, result]
  rfl

/-- Between two parts of a statement every piece melts as it does alone, and of the parts the same stays for all
pieces that stand for the same. -/
theorem exists_survivors_around {before after : List Token} (balanced : Balanced (before ++ after))
    (isOperand : Bool) :
    ∃ earlier later : List Bool, earlier.length = before.length ∧ later.length = after.length ∧
      ∀ piece, StandsFor isOperand (roles piece) →
        survivors (before ++ spelled piece ++ after) =
          .ok (earlier ++ survey false (roles piece) ++ later) ∧
        melt (before ++ spelled piece ++ after) =
          .ok (select before earlier ++ spelled (melted false piece) ++ select after later) := by
  obtain ⟨phrase, split⟩ := exists_phrase balanced
  obtain ⟨hole, rfl, rfl⟩ := exists_hole phrase split
  obtain ⟨_, earlier, later, size, laterSize, each⟩ := hole.exists_survey isOperand false
  refine ⟨earlier, later, size, laterSize, fun piece stands => ?_⟩
  have stay : survivors (hole.before ++ spelled piece ++ hole.after) =
      .ok (earlier ++ survey false (roles piece) ++ later) := by
    rw [← hole.spelled_fill, survivors_flatten (map_mark_spelled _), (each piece stands).2]
  refine ⟨stay, ?_⟩
  have pieceSize := (length_survey_roles piece false).symm
  rw [melt_of_survivors stay, select_append _ _ _ _ (by simp [size, pieceSize]),
    select_append _ _ _ _ size.symm, select_survey]

/-- Nothing is left of a phrase without content. -/
theorem melted_of_noContent (phrase : Level Word) (operandBefore : Bool)
    (noContent : (outlook (roles phrase)).hasContent = false) :
    melted operandBefore phrase = .done := by
  rw [← spelled_eq_nil_iff, ← select_survey]
  exact select_eq_nil _ _ (eq_false_of_mem_survey (roles phrase) operandBefore noContent)

/-- What is left of a phrase has content when the phrase has. -/
theorem hasContent_melted (phrase : Level Word) :
    (outlook (roles (melted false phrase))).hasContent = (outlook (roles phrase)).hasContent := by
  cases content : (outlook (roles phrase)).hasContent with
  | true =>
      have isTidy := tidy_melted phrase false false nofun
      exact (outlook_of_tidy _ false isTidy).2 rfl (roles_melted_ne_done phrase false content)
  | false =>
      rw [melted_of_noContent phrase false content]
      rfl

/-- Nothing is left of a phrase exactly when it has no content. -/
theorem spelled_melted_eq_nil_iff (phrase : Level Word) :
    spelled (melted false phrase) = [] ↔ (outlook (roles phrase)).hasContent = false := by
  rw [spelled_eq_nil_iff]
  constructor
  · intro nothing
    rw [← hasContent_melted, nothing]
    rfl
  · exact melted_of_noContent phrase false

/-- The group of what is left within its brackets melts as the group does. -/
theorem melted_group_melted (inner : Level Word) :
    melted false (.group (melted false inner) .done) = melted false (.group inner .done) := by
  have again : melted false (melted false inner) = melted false inner :=
    melted_of_tidy _ false false (tidy_melted inner false false nofun) nofun
  simp only [melted, hasContent_melted, again]

theorem spelled_group_done (inner : Level Word) :
    spelled (.group inner .done) = Token.bracketed (spelled inner) := by
  simp [spelled]

/-- A group melts in any place of a statement as it does alone, and so does the group of what is left within it.
When that is nothing, the statement melts as if the group were not there; else what stays around the group
is what stays around any operand in its place. -/
theorem melt_of_group {before inner after : List Token} (innerBalanced : Balanced inner)
    (balanced : Balanced (before ++ after)) :
    ∃ left whole, melt inner = .ok left ∧
      melt (before ++ Token.bracketed inner ++ after) = .ok whole ∧
      melt (before ++ Token.bracketed left ++ after) = .ok whole ∧
      (left = [] → melt (before ++ after) = .ok whole) ∧
      (left ≠ [] → ∃ within earlier later : List Bool,
        survivors inner = .ok within ∧
        earlier.length = before.length ∧ later.length = after.length ∧
        survivors (before ++ Token.bracketed inner ++ after) =
          .ok (earlier ++ (true :: within ++ [true]) ++ later) ∧
        whole = select before earlier ++ Token.bracketed left ++ select after later ∧
        ∀ operand : Token, operand.isOperand = true →
          survivors (before ++ operand :: after) = .ok (earlier ++ true :: later) ∧
          melt (before ++ operand :: after) =
            .ok (select before earlier ++ operand :: select after later)) := by
  obtain ⟨phrase, rfl⟩ := exists_phrase innerBalanced
  obtain ⟨earlier, later, size, laterSize, around⟩ :=
    exists_survivors_around balanced (outlook (roles phrase)).hasContent
  have leftStands := standsFor_group (roles (melted false phrase))
  rw [hasContent_melted] at leftStands
  obtain ⟨stay, whole⟩ := around (.group phrase .done) (standsFor_group (roles phrase))
  obtain ⟨-, wholeAgain⟩ := around (.group (melted false phrase) .done) leftStands
  rw [melted_group_melted, spelled_group_done] at wholeAgain
  rw [spelled_group_done] at stay whole
  refine ⟨_, _, melt_spelled phrase, whole, wholeAgain, fun nothing => ?_, fun something => ?_⟩
  · have noContent := (spelled_melted_eq_nil_iff phrase).mp nothing
    rw [noContent] at around
    obtain ⟨-, nowhere⟩ := around .done standsFor_nothing
    rw [melted_group_of_noContent false .done noContent]
    simpa [spelled] using nowhere
  · have content : (outlook (roles phrase)).hasContent = true := by
      rwa [Ne, spelled_melted_eq_nil_iff, Bool.not_eq_false] at something
    rw [content] at around
    refine ⟨_, earlier, later, survivors_flatten (map_mark_spelled phrase), size, laterSize, ?_, ?_,
      fun operand isOperand => ?_⟩
    · simpa [roles, survey, content] using stay
    · rw [melted_group_of_content false .done content, melted, spelled_group_done]
    · obtain ⟨word, rfl, role⟩ := exists_word_of_isOperand isOperand
      obtain ⟨operandStays, operandWhole⟩ := around (.item word .done) (standsFor_operand role)
      rw [melted_item_of_stays (by rw [role, stays]), melted] at operandWhole
      constructor
      · simpa [spelled, roles, role, survey, stays] using operandStays
      · simpa [spelled] using operandWhole

/-- A condition up to a negation within a group. -/
def conditionBefore : List Token :=
  [.keyword .condition, .omitted, .operator .conjunction, .bracket .opening, .operator .negation]

/-- The rest of the condition, which begins with a connective that misses its right operand. -/
def conditionAfter : List Token :=
  [.operator .disjunction, .omitted, .bracket .closing, .operator .conjunction, .text "b"]

/-- An alternative whose first predicate is absent. -/
def alternative : List Token := [.omitted, .operator .disjunction, .text "a"]

/-- The alternative stands in its brackets where a column would stand, and absent predicates in brackets stand
for nothing. -/
theorem melt_of_negatedAlternative :
    Balanced alternative ∧ Balanced (conditionBefore ++ conditionAfter) ∧
      (∃ earlier later : List Bool,
        survivors (conditionBefore ++ Token.bracketed alternative ++ conditionAfter) =
          .ok (earlier ++ [true, false, false, true, true] ++ later) ∧
        melt (conditionBefore ++ Token.bracketed alternative ++ conditionAfter) =
          .ok (select conditionBefore earlier ++ Token.bracketed [.text "a"] ++
            select conditionAfter later) ∧
        melt (conditionBefore ++ .column { name := "c" } :: conditionAfter) =
          .ok (select conditionBefore earlier ++ .column { name := "c" } ::
            select conditionAfter later)) ∧
      melt (conditionBefore ++ Token.bracketed [.omitted] ++ conditionAfter) =
        melt (conditionBefore ++ conditionAfter) := by
  have balanced : Balanced (conditionBefore ++ conditionAfter) :=
    (balanced_iff_imbalance?_eq_none _).mpr (by decide)
  have innerBalanced : Balanced alternative :=
    (balanced_iff_imbalance?_eq_none _).mpr (by decide)
  obtain ⟨left, whole, innerMelts, melts, -, -, around⟩ := melt_of_group innerBalanced balanced
  obtain ⟨nothing, rest, deadMelts, restMelts, -, without, -⟩ :=
    melt_of_group (.word rfl .empty : Balanced [.omitted]) balanced
  cases innerMelts
  cases deadMelts
  obtain ⟨within, earlier, later, inside, -, -, stay, split, each⟩ := around (by decide)
  cases inside
  rw [split] at melts
  refine ⟨innerBalanced, balanced, ⟨earlier, later, stay, melts, (each _ rfl).2⟩, ?_⟩
  rw [restMelts, without rfl]

end SqlTemplate.Melt
