import Mathlib.Data.List.TakeWhile
import SqlTemplate.Text.Blank
import SqlTemplate.Text.Numeral

/-!
This file says what trimming keeps. The decimal form of a number has no blank, so it is read back from a
text that was trimmed.
-/

namespace SqlTemplate.Text

/-- A letter that is not blank is never dropped from the end. -/
theorem dropBlankEnd_cons_of_shown {letter : Char} (shown : isBlank letter = false)
    (rest : List Char) : dropBlankEnd (letter :: rest) = letter :: dropBlankEnd rest := by
  rw [dropBlankEnd]
  cases dropBlankEnd rest with
  | nil => simp [shown]
  | cons first later => rfl

/-- A blank is dropped from the end when nothing else follows it. -/
theorem dropBlankEnd_cons_of_blank {letter : Char} (blank : isBlank letter = true)
    (rest : List Char) :
    dropBlankEnd (letter :: rest) =
      if dropBlankEnd rest = [] then [] else letter :: dropBlankEnd rest := by
  rw [dropBlankEnd]
  cases dropBlankEnd rest with
  | nil => simp [blank]
  | cons first later => simp

/-- What has no blank is kept in front of whatever is left of the rest. -/
theorem dropBlankEnd_append_of_shown {front : List Char}
    (shown : ∀ letter ∈ front, isBlank letter = false) (rest : List Char) :
    dropBlankEnd (front ++ rest) = front ++ dropBlankEnd rest := by
  induction front with
  | nil => rfl
  | cons letter front inductionHypothesis =>
      rw [List.forall_mem_cons] at shown
      rw [List.cons_append, dropBlankEnd_cons_of_shown shown.1, inductionHypothesis shown.2,
        List.cons_append]

/-- A text without a blank is kept as it is. -/
theorem trimLetters_of_shown {letters : List Char}
    (shown : ∀ letter ∈ letters, isBlank letter = false) : trimLetters letters = letters := by
  have start : letters.dropWhile isBlank = letters := by
    cases letters with
    | nil => rfl
    | cons letter rest => simp [shown letter List.mem_cons_self]
  have whole := dropBlankEnd_append_of_shown shown []
  rw [List.append_nil, dropBlankEnd, List.append_nil] at whole
  rw [trimLetters, start, whole]

theorem ne_of_isBlank {letter shown : Char} (blank : isBlank letter = true)
    (notBlank : isBlank shown = false) : letter ≠ shown := by
  rintro rfl
  rw [blank] at notBlank
  cases notBlank

/-- Trimming keeps every letter that is not blank. -/
theorem count_trimLetters {shown : Char} (notBlank : isBlank shown = false) (letters : List Char) :
    (trimLetters letters).count shown = letters.count shown := by
  have start : (letters.dropWhile isBlank).count shown = letters.count shown := by
    induction letters with
    | nil => rfl
    | cons letter rest inductionHypothesis =>
        by_cases blank : isBlank letter = true
        · rw [List.dropWhile_cons_of_pos blank, inductionHypothesis,
            List.count_cons_of_ne (ne_of_isBlank blank notBlank)]
        · rw [List.dropWhile_cons_of_neg blank]
  have stop (others : List Char) : (dropBlankEnd others).count shown = others.count shown := by
    induction others with
    | nil => rfl
    | cons letter rest inductionHypothesis =>
        cases blank : isBlank letter with
        | false =>
            rw [dropBlankEnd_cons_of_shown blank, List.count_cons, List.count_cons,
              inductionHypothesis]
        | true =>
            have other := ne_of_isBlank blank notBlank
            rw [dropBlankEnd_cons_of_blank blank, List.count_cons_of_ne other, ← inductionHypothesis]
            split
            · rename_i nothing
              rw [nothing]
            · rw [List.count_cons_of_ne other]
  rw [trimLetters, stop, start]

/-- What is dropped from the end is all when it is all blank. -/
theorem dropBlankEnd_eq_nil_iff (letters : List Char) :
    dropBlankEnd letters = [] ↔ ∀ letter ∈ letters, isBlank letter = true := by
  induction letters with
  | nil => simp [dropBlankEnd]
  | cons letter rest inductionHypothesis =>
      rw [List.forall_mem_cons, ← inductionHypothesis]
      cases blank : isBlank letter with
      | true => simp [dropBlankEnd_cons_of_blank blank]
      | false => simp [dropBlankEnd_cons_of_shown blank]

/-- Nothing is left of blanks. -/
theorem trimLetters_eq_nil_iff (letters : List Char) :
    trimLetters letters = [] ↔ ∀ letter ∈ letters, isBlank letter = true := by
  rw [trimLetters, dropBlankEnd_eq_nil_iff]
  induction letters with
  | nil => rfl
  | cons letter rest inductionHypothesis =>
      by_cases blank : isBlank letter = true
      · rw [List.dropWhile_cons_of_pos blank, inductionHypothesis, List.forall_mem_cons]
        exact ⟨fun others => ⟨blank, others⟩, And.right⟩
      · rw [List.dropWhile_cons_of_neg blank]

theorem dropBlankEnd_append_blank (letters : List Char) {blank : Char}
    (isBlank : isBlank blank = true) : dropBlankEnd (letters ++ [blank]) = dropBlankEnd letters := by
  induction letters with
  | nil => simp [dropBlankEnd, isBlank]
  | cons letter rest inductionHypothesis =>
      rw [List.cons_append, dropBlankEnd, dropBlankEnd, inductionHypothesis]

/-- A blank at the end is trimmed. -/
theorem trimLetters_append_blank (letters : List Char) {blank : Char}
    (isBlank : isBlank blank = true) : trimLetters (letters ++ [blank]) = trimLetters letters := by
  rw [trimLetters, trimLetters, List.dropWhile_append]
  split
  · rename_i nothing
    rw [List.isEmpty_iff.mp nothing]
    simp [isBlank]
  · exact dropBlankEnd_append_blank _ isBlank

/-- Blanks behind a text are dropped from the end. -/
theorem dropBlankEnd_append_blanks (letters : List Char) {blanks : List Char}
    (allBlank : ∀ blank ∈ blanks, isBlank blank = true) :
    dropBlankEnd (letters ++ blanks) = dropBlankEnd letters := by
  induction blanks generalizing letters with
  | nil => rw [List.append_nil]
  | cons blank rest inductionHypothesis =>
      rw [List.forall_mem_cons] at allBlank
      rw [List.append_cons, inductionHypothesis _ allBlank.2,
        dropBlankEnd_append_blank letters allBlank.1]

/-- A text without a blank is found between blanks. -/
theorem trimLetters_between {before letters after : List Char}
    (blankBefore : ∀ blank ∈ before, isBlank blank = true)
    (shown : ∀ letter ∈ letters, isBlank letter = false)
    (blankAfter : ∀ blank ∈ after, isBlank blank = true) :
    trimLetters (before ++ letters ++ after) = letters := by
  have start : before.dropWhile isBlank = [] := List.dropWhile_eq_nil_iff.mpr blankBefore
  rw [trimLetters, List.append_assoc, List.dropWhile_append, start, List.isEmpty_nil, if_pos rfl]
  cases letters with
  | nil =>
      rw [List.nil_append, List.dropWhile_eq_nil_iff.mpr blankAfter]
      rfl
  | cons first rest =>
      have firstShown : ¬ isBlank first = true := Bool.eq_false_iff.mp (shown first List.mem_cons_self)
      have whole := dropBlankEnd_append_of_shown shown []
      rw [List.append_nil, dropBlankEnd, List.append_nil] at whole
      rw [List.cons_append, List.dropWhile_cons_of_neg firstShown, ← List.cons_append,
        dropBlankEnd_append_blanks _ blankAfter, whole]

theorem dropBlankEnd_concat_of_shown (letters : List Char) {last : Char}
    (shown : isBlank last = false) : dropBlankEnd (letters ++ [last]) = letters ++ [last] := by
  induction letters with
  | nil => exact dropBlankEnd_cons_of_shown shown []
  | cons letter rest inductionHypothesis =>
      rw [List.cons_append, dropBlankEnd, inductionHypothesis]
      cases rest <;> rfl

/-- A text that begins and ends with what is no blank is left as it is. -/
theorem trimLetters_of_shown_ends {first last : Char} (firstShown : isBlank first = false)
    (letters : List Char) (lastShown : isBlank last = false) :
    trimLetters (first :: letters ++ [last]) = first :: letters ++ [last] := by
  rw [trimLetters, List.cons_append, List.dropWhile_cons_of_neg (Bool.eq_false_iff.mp firstShown),
    ← List.cons_append, dropBlankEnd_concat_of_shown _ lastShown]

/-- Only blanks are dropped from the end. -/
theorem exists_dropBlankEnd (letters : List Char) :
    ∃ after, letters = dropBlankEnd letters ++ after ∧ ∀ blank ∈ after, isBlank blank = true := by
  induction letters with
  | nil => exact ⟨[], rfl, nofun⟩
  | cons letter rest inductionHypothesis =>
      obtain ⟨after, split, blankAfter⟩ := inductionHypothesis
      cases blank : isBlank letter with
      | false =>
          rw [dropBlankEnd_cons_of_shown blank]
          exact ⟨after, congrArg (letter :: ·) split, blankAfter⟩
      | true =>
          rw [dropBlankEnd_cons_of_blank blank]
          split
          · rename_i nothing
            rw [nothing, List.nil_append] at split
            exact ⟨letter :: rest, rfl, by rw [List.forall_mem_cons, split]; exact ⟨blank, blankAfter⟩⟩
          · exact ⟨after, congrArg (letter :: ·) split, blankAfter⟩

/-- Only blanks are dropped from the two ends. -/
theorem exists_trimLetters (letters : List Char) :
    ∃ before after, letters = before ++ trimLetters letters ++ after ∧
      (∀ blank ∈ before, isBlank blank = true) ∧ ∀ blank ∈ after, isBlank blank = true := by
  obtain ⟨after, split, blankAfter⟩ := exists_dropBlankEnd (letters.dropWhile isBlank)
  refine ⟨letters.takeWhile isBlank, after, ?_, fun _ => List.mem_takeWhile_imp, blankAfter⟩
  rw [List.append_assoc, trimLetters, ← split, List.takeWhile_append_dropWhile]

/-- A digit is not blank. -/
theorem isBlank_of_isDigit {letter : Char} (digit : letter.isDigit = true) :
    isBlank letter = false := by
  have bounds : 48 ≤ letter.toNat ∧ letter.toNat ≤ 57 := by
    simp only [Char.isDigit, Bool.and_eq_true, decide_eq_true_eq, ge_iff_le,
      UInt32.le_iff_toNat_le] at digit
    exact digit
  simp only [isBlank, blankRanges, List.any_cons, List.any_nil, Bool.or_eq_false_iff,
    Bool.and_eq_false_iff, decide_eq_false_iff_not, and_true]
  omega

/-- The decimal form of a natural number has no blank. -/
theorem isBlank_of_mem_naturalLetters {number : Nat} {letter : Char}
    (member : letter ∈ naturalLetters number) : isBlank letter = false :=
  isBlank_of_isDigit (isDigit_of_mem_naturalLetters member)

/-- The decimal form of a whole number has no blank. -/
theorem isBlank_of_mem_integerLetters {number : Int} {letter : Char}
    (member : letter ∈ integerLetters number) : isBlank letter = false := by
  cases number with
  | ofNat magnitude => exact isBlank_of_mem_naturalLetters member
  | negSucc magnitude =>
      rcases List.mem_cons.mp member with rfl | digit
      · decide
      · exact isBlank_of_mem_naturalLetters digit

/-- An unsigned number is read back from its digits. -/
theorem readNatural?_naturalLetters (number : Nat) :
    readNatural? (naturalLetters number) = some number := by
  rw [readNatural?.eq_def]
  split
  · rename_i digits sign
    have plus : '+' ∈ naturalLetters number := by rw [sign]; exact List.mem_cons_self
    exact absurd (isDigit_of_mem_naturalLetters plus) (by decide)
  · exact readDigits?_naturalLetters number

/-- Different numbers have different decimal forms. -/
theorem natural_inj {first second : Nat} : natural first = natural second ↔ first = second := by
  constructor
  · intro same
    have letters : naturalLetters first = naturalLetters second := String.ofList_inj.mp same
    rw [← digitsValue_naturalLetters first, letters, digitsValue_naturalLetters]
  · rintro rfl
    rfl

end SqlTemplate.Text
