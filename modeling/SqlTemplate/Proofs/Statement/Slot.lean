import Mathlib.Data.List.Basic
import Mathlib.Logic.ExistsUnique
import SqlTemplate.Proofs.Statement.Fragments

/-!
This file compares two ways to put a column into a template. A statement is written by rewriting the placeholders
of the whole template first, and looking for the slot in what was written. The other way cuts the template at its
slot and writes the parts before and behind it. They agree, because writing a placeholder neither makes a slot nor
breaks one, and because the quoted column is not looked at again.
-/

namespace SqlTemplate

namespace Template

/-- What stands before the first slot, and what stands behind it. -/
def cut : List Char → List Char × List Char
  | [] => ([], [])
  | [letter] => ([letter], [])
  | letter :: next :: rest =>
      if letter = '\x7b' ∧ next = '\x7d' then ([], rest)
      else
        let parts := cut (next :: rest)
        (letter :: parts.1, parts.2)

theorem slots_slot (after : List Char) : slots ('\x7b' :: '\x7d' :: after) = slots after + 1 :=
  if_pos ⟨rfl, rfl⟩

/-- A letter begins a slot or does not matter. -/
theorem slots_cons (letter : Char) (rest : List Char) :
    slots (letter :: rest) =
      slots rest + if letter = '\x7b' ∧ rest.head? = some '\x7d' then 1 else 0 := by
  have closing (later : List Char) : slots ('\x7d' :: later) = slots later := by
    cases later with
    | nil => rfl
    | cons next more => exact if_neg fun slot => absurd slot.1 (by decide)
  cases rest with
  | nil => simp [slots]
  | cons next later =>
      by_cases slot : letter = '\x7b' ∧ next = '\x7d'
      · obtain ⟨rfl, rfl⟩ := slot
        rw [slots_slot, closing, if_pos ⟨rfl, rfl⟩]
      · simp [slots, slot]

theorem slots_cons_of_noSlot {letter : Char} {rest : List Char}
    (noSlot : ¬ (letter = '\x7b' ∧ rest.head? = some '\x7d')) :
    slots (letter :: rest) = slots rest := by
  rw [slots_cons, if_neg noSlot, Nat.add_zero]

theorem slots_append_of_noOpening {front : List Char} (noOpening : '\x7b' ∉ front)
    (rest : List Char) : slots (front ++ rest) = slots rest := by
  induction front with
  | nil => rfl
  | cons letter front inductionHypothesis =>
      rw [List.mem_cons, not_or] at noOpening
      rw [List.cons_append, slots_cons_of_noSlot fun slot => noOpening.1 slot.1.symm,
        inductionHypothesis noOpening.2]

/-- The slots on both sides of a slot are counted on their own. -/
theorem slots_around (before after : List Char) :
    slots (before ++ '\x7b' :: '\x7d' :: after) = slots before + 1 + slots after := by
  induction before using slots.induct with
  | case1 =>
      rw [List.nil_append, slots_slot, slots]
      omega
  | case2 letter =>
      have noSlot : ¬ (letter = '\x7b' ∧ ('\x7b' :: '\x7d' :: after).head? = some '\x7d') := by
        simp
      rw [List.singleton_append, slots_cons_of_noSlot noSlot, slots_slot, slots]
      omega
  | case3 letter next rest slot inductionHypothesis =>
      obtain ⟨rfl, rfl⟩ := slot
      rw [List.cons_append, List.cons_append, slots_slot, slots_slot, inductionHypothesis]
      omega
  | case4 letter next rest noSlot inductionHypothesis =>
      rw [List.cons_append, List.cons_append, slots, if_neg noSlot, slots, if_neg noSlot,
        ← List.cons_append, inductionHypothesis]

/-- A template that has a slot is split at its first one. -/
theorem exists_first_slot {letters : List Char} (some : slots letters ≠ 0) :
    ∃ before after, letters = before ++ '\x7b' :: '\x7d' :: after ∧ slots before = 0 := by
  induction letters using slots.induct with
  | case1 => exact absurd rfl some
  | case2 letter => exact absurd rfl some
  | case3 letter next rest slot inductionHypothesis =>
      obtain ⟨rfl, rfl⟩ := slot
      exact ⟨[], rest, rfl, rfl⟩
  | case4 letter next rest noSlot inductionHypothesis =>
      rw [slots, if_neg noSlot] at some
      obtain ⟨before, after, split, none⟩ := inductionHypothesis some
      refine ⟨letter :: before, after, by rw [split, List.cons_append], ?_⟩
      rw [slots_cons_of_noSlot, none]
      rintro ⟨isOpening, closes⟩
      cases before with
      | nil => cases closes
      | cons first more =>
          cases split
          cases closes
          exact noSlot ⟨isOpening, rfl⟩

/-- A template is cut at its first slot. -/
theorem cut_around {before : List Char} (none : slots before = 0) (after : List Char) :
    cut (before ++ '\x7b' :: '\x7d' :: after) = (before, after) := by
  induction before using slots.induct with
  | case1 => exact if_pos ⟨rfl, rfl⟩
  | case2 letter => simp [cut]
  | case3 letter next rest slot inductionHypothesis =>
      obtain ⟨rfl, rfl⟩ := slot
      rw [slots_slot] at none
      omega
  | case4 letter next rest noSlot inductionHypothesis =>
      rw [slots, if_neg noSlot] at none
      rw [List.cons_append, List.cons_append, cut, if_neg noSlot, ← List.cons_append,
        inductionHypothesis none]

/-- A template with one slot is cut wherever it can be split at a slot. -/
theorem cut_of_one {letters before after : List Char}
    (split : letters = before ++ '\x7b' :: '\x7d' :: after) (one : slots letters = 1) :
    cut letters = (before, after) := by
  rw [split, slots_around] at one
  have none : slots before = 0 := by omega
  rw [split, cut_around none]

/-- A template with a slot is what it is cut into, with the slot between. -/
theorem eq_cut {letters : List Char} (some : slots letters ≠ 0) :
    letters = (cut letters).1 ++ '\x7b' :: '\x7d' :: (cut letters).2 := by
  obtain ⟨before, after, split, none⟩ := exists_first_slot some
  have parts := cut_around none after
  rw [← split] at parts
  rw [parts]
  exact split

/-- A slot holds no placeholder. -/
theorem count_around (before after : List Char) :
    (before ++ '\x7b' :: '\x7d' :: after).count placeholder =
      before.count placeholder + after.count placeholder := by
  rw [List.count_append, List.count_cons_of_ne (by decide), List.count_cons_of_ne (by decide)]

theorem count_cut {letters : List Char} (some : slots letters ≠ 0) :
    (cut letters).1.count placeholder + (cut letters).2.count placeholder =
      letters.count placeholder := by
  rw [← count_around, ← eq_cut some]

/-- The filling stands where the first slot was. -/
theorem fillFirst_around (filling : List Char) {before : List Char} (none : slots before = 0)
    (after : List Char) :
    fillFirst filling (before ++ '\x7b' :: '\x7d' :: after) = before ++ filling ++ after := by
  induction before using slots.induct with
  | case1 => exact if_pos ⟨rfl, rfl⟩
  | case2 letter => simp [fillFirst]
  | case3 letter next rest slot inductionHypothesis =>
      obtain ⟨rfl, rfl⟩ := slot
      rw [slots_slot] at none
      omega
  | case4 letter next rest noSlot inductionHypothesis =>
      rw [slots, if_neg noSlot] at none
      rw [List.cons_append, List.cons_append, fillFirst, if_neg noSlot, ← List.cons_append,
        inductionHypothesis none]
      rfl

/-- A template has one slot exactly when there is one way to split it at a slot. -/
theorem slots_eq_one_iff (letters : List Char) :
    slots letters = 1 ↔
      ∃! parts : List Char × List Char, letters = parts.1 ++ '\x7b' :: '\x7d' :: parts.2 := by
  constructor
  · intro one
    have some : slots letters ≠ 0 := by omega
    obtain ⟨before, after, split, -⟩ := exists_first_slot some
    refine ⟨(before, after), split, ?_⟩
    rintro ⟨otherBefore, otherAfter⟩ otherSplit
    exact (cut_of_one otherSplit one).symm.trans (cut_of_one split one)
  · rintro ⟨⟨before, after⟩, split, unique⟩
    dsimp only at split
    have noneBefore : slots before = 0 := by
      refine Decidable.byContradiction fun more => ?_
      obtain ⟨first, between, earlier, -⟩ := exists_first_slot more
      have other := unique (first, between ++ '\x7b' :: '\x7d' :: after) (by simp [split, earlier])
      have sizes := congrArg (fun parts => parts.2.length) other
      simp only [List.length_append, List.length_cons] at sizes
      omega
    have noneAfter : slots after = 0 := by
      refine Decidable.byContradiction fun more => ?_
      obtain ⟨between, last, later, -⟩ := exists_first_slot more
      have other := unique (before ++ '\x7b' :: '\x7d' :: between, last) (by simp [split, later])
      have sizes := congrArg (fun parts => parts.1.length) other
      simp only [List.length_append, List.length_cons] at sizes
      omega
    rw [split, slots_around, noneBefore, noneAfter]

/-- Writing the placeholders neither makes a slot nor breaks one. -/
theorem slots_numberFrom (next : Nat) (letters : List Char) :
    slots (numberFrom next letters) = slots letters := by
  have noOpening (number : Nat) : '\x7b' ∉ '$' :: Text.naturalLetters number := by
    rw [List.mem_cons, not_or]
    exact ⟨by decide, fun digit => absurd (Text.isDigit_of_mem_naturalLetters digit) (by decide)⟩
  have closes (number : Nat) (rest : List Char) :
      (numberFrom number rest).head? = some '\x7d' ↔ rest.head? = some '\x7d' := by
    cases rest with
    | nil => rfl
    | cons letter more =>
        by_cases marked : letter = placeholder
        · subst marked
          rw [numberFrom_placeholder, List.cons_append, List.head?_cons, List.head?_cons]
          decide
        · rw [numberFrom_cons_of_ne marked, List.head?_cons, List.head?_cons]
  induction letters generalizing next with
  | nil => rfl
  | cons letter rest inductionHypothesis =>
      by_cases marked : letter = placeholder
      · subst marked
        have noSlot : ¬ (placeholder = '\x7b' ∧ rest.head? = some '\x7d') :=
          fun slot => absurd slot.1 (by decide)
        rw [numberFrom_placeholder, slots_append_of_noOpening (noOpening next),
          inductionHypothesis, slots_cons_of_noSlot noSlot]
      · simp only [numberFrom_cons_of_ne marked, slots_cons, closes, inductionHypothesis]

end Template

namespace Statement

namespace Numbering

variable (numbering : Numbering)

theorem slots_written (letters : List Char) :
    Template.slots (numbering.written letters) = Template.slots letters := by
  rw [written]
  split
  · exact Template.slots_numberFrom numbering.next letters
  · rfl

/-- A slot stays where it is when the placeholders around it are written. -/
theorem written_around (before after : List Char) :
    numbering.written (before ++ '\x7b' :: '\x7d' :: after) =
      numbering.written before ++ '\x7b' :: '\x7d' ::
        (numbering.advance (before.count Template.placeholder)).written after := by
  have slot (later : Numbering) : later.written ('\x7b' :: '\x7d' :: after) =
      '\x7b' :: '\x7d' :: later.written after := by
    simp only [written]
    split
    · rw [Template.numberFrom_cons_of_ne (by decide), Template.numberFrom_cons_of_ne (by decide)]
    · rfl
  rw [written_append, slot]

end Numbering

/-- A template with one slot is written around the quoted column, and the numbering goes on by its placeholders. -/
theorem writeColumnTemplate_around (dialect : Dialect) (numbering : Numbering) {template : String}
    (column : String) {before after : List Char}
    (split : template.toList = before ++ '\x7b' :: '\x7d' :: after)
    (one : Template.slots template.toList = 1) :
    writeColumnTemplate dialect numbering template column =
      .ok (String.ofList (numbering.written before ++ (dialect.style.quote column).toList ++
          (numbering.advance (before.count Template.placeholder)).written after),
        numbering.advance (Template.placeholders template)) := by
  have both : Template.slots before + 1 + Template.slots after = 1 := by
    rw [← Template.slots_around, ← split, one]
  have none : Template.slots (numbering.written before) = 0 := by
    rw [Numbering.slots_written]
    omega
  rw [writeColumnTemplate, if_neg (not_not.mpr one), Numbering.apply_eq]
  dsimp only
  rw [String.toList_ofList, split, Numbering.written_around, Template.fillFirst_around _ none]

/-- Any other template is refused with the number of its slots. -/
theorem writeColumnTemplate_of_slots (dialect : Dialect) (numbering : Numbering) {template : String}
    (column : String) (other : Template.slots template.toList ≠ 1) :
    writeColumnTemplate dialect numbering template column =
      .error (.columnSlots template (Template.slots template.toList)) := by
  rw [writeColumnTemplate, if_pos other]

/-- A predicate on a column is written exactly when its template has one slot, which means that there is one way to
split it at a slot; otherwise it is refused with the number of its slots. What is written is the part before the
slot, the quoted column and the part behind it, with the placeholders counted on from one part to the other as if
they stood side by side, whatever the column is called. Where placeholders are numbered, the numbering goes on by
those of the template; where they are not, it stays as it is. -/
theorem writeToken_columnExpression (context : Context) (parameters : Parameters)
    (numbering : Numbering) (columnName : String) (body : Expression) :
    let template := body.template.toList
    let quoted := context.dialect.style.quote columnName
    let written := writeToken context parameters numbering (.columnExpression columnName body)
    let advanced : Numbering :=
      if numbering.isNumbered then { numbering with next := numbering.next + template.count '?' }
      else numbering
    ((∃ outcome, written = .ok outcome) ↔ Template.slots template = 1) ∧
    (Template.slots template = 1 ↔
      ∃! parts : List Char × List Char, template = parts.1 ++ '\x7b' :: '\x7d' :: parts.2) ∧
    (∀ before after : String, body.template = before ++ "\x7b\x7d" ++ after →
      Template.slots template = 1 →
        let first := numbering.apply before
        let second := first.2.apply after
        written = .ok (first.1 ++ quoted ++ second.1, advanced) ∧ second.2 = advanced ∧
          numbering.apply (before ++ after) = (first.1 ++ second.1, advanced)) ∧
    (Template.slots template ≠ 1 →
      written = .error (.state (.columnSlots body.template (Template.slots template)))) := by
  intro template quoted written advanced
  have whole : written =
      (writeColumnTemplate context.dialect numbering body.template columnName).mapError
        Fault.state := rfl
  have refused (other : Template.slots template ≠ 1) :
      written = .error (.state (.columnSlots body.template (Template.slots template))) := by
    rw [whole, writeColumnTemplate_of_slots context.dialect numbering columnName other]
    rfl
  have goesOn : advanced = numbering.advance (Template.placeholders body.template) := rfl
  refine ⟨⟨?_, fun one => ?_⟩, Template.slots_eq_one_iff template, ?_, refused⟩
  · rintro ⟨outcome, success⟩
    refine Decidable.byContradiction fun other => ?_
    rw [refused other] at success
    cases success
  · have some : Template.slots template ≠ 0 := by omega
    obtain ⟨before, after, split, -⟩ := Template.exists_first_slot some
    exact ⟨_, by rw [whole, writeColumnTemplate_around context.dialect numbering columnName split one,
      ok_mapError]⟩
  · intro before after joined one first second
    have split : template = before.toList ++ '\x7b' :: '\x7d' :: after.toList := by
      simp [template, joined]
    have count : Template.placeholders body.template =
        Template.placeholders before + Template.placeholders after :=
      (congrArg (List.count Template.placeholder) split).trans (Template.count_around _ _)
    have secondEq : second = _ := Numbering.apply_eq _ after
    have firstEq : first = _ := numbering.apply_eq before
    rw [firstEq] at secondEq
    refine ⟨?_, ?_, ?_⟩
    · rw [whole, writeColumnTemplate_around context.dialect numbering columnName split one,
        ok_mapError, secondEq, firstEq, goesOn]
      simp [String.ofList_append, String.append_assoc, Template.placeholders, quoted]
    · rw [secondEq, goesOn, count, Numbering.advance_add]
    · rw [Numbering.apply_eq, secondEq, firstEq, goesOn, count, String.toList_append,
        Numbering.written_append, String.ofList_append]
      simp [Template.placeholders]

/-- The slot stands between braces and placeholders, and the name of the column holds a placeholder and a slot. -/
def bracedColumn : Token :=
  .columnExpression "a?\x7b\x7d" { template := "\x7b?\x7b\x7d?\x7d" }

theorem writeToken_of_bracedColumn :
    writeToken { chosenDialect := some .postgreSql } .empty ⟨true, 3⟩ bracedColumn =
        .ok ("\x7b$3\"a?\x7b\x7d\"$4\x7d", ⟨true, 5⟩) ∧
      writeToken {} .empty ⟨false, 3⟩ (.columnExpression "a" { template := "\x7b\x7d = \x7b\x7d" }) =
        .error (.state (.columnSlots "\x7b\x7d = \x7b\x7d" 2)) := by
  obtain ⟨-, -, around, -⟩ := writeToken_columnExpression { chosenDialect := some .postgreSql } .empty
    ⟨true, 3⟩ "a?\x7b\x7d" { template := "\x7b?\x7b\x7d?\x7d" }
  obtain ⟨-, -, -, refused⟩ := writeToken_columnExpression {} .empty ⟨false, 3⟩ "a"
    { template := "\x7b\x7d = \x7b\x7d" }
  obtain ⟨written, -, -⟩ := around "\x7b?" "?\x7d" (by decide) (by decide)
  exact ⟨written.trans (by decide), refused (by decide)⟩

/-- Where the dialect does not number its placeholders, the numbering does not count them. -/
theorem next_of_bareColumn :
    let context : Context := { chosenDialect := some .mySql }
    let body : Expression := { template := "\x7b\x7d = ?" }
    ∃ after, writeToken context .empty (.start .mySql) (.columnExpression "a" body) =
        .ok ("\x60a\x60 = ?", after) ∧
      after.next ≠ (Numbering.start .mySql).next + body.template.toList.count '?' :=
  ⟨.start .mySql, by decide, by decide⟩

end Statement

end SqlTemplate
