import SqlTemplate.Dialect

/-!
This file proves that a quoted identifier is read back whole, whatever stands in it. The reader takes a doubled
closing mark for one letter and ends at the first closing mark that stands alone, and quoting writes exactly
what this reader accepts.
-/

namespace SqlTemplate

namespace Text.Marks

variable {marks : Marks} {letters body after : List Char}

/-- What the reader takes for the body was doubled, and what it leaves does not begin with a closing mark. -/
theorem eq_double_of_readBody (found : marks.readBody letters = some (body, after)) :
    letters = marks.double body ++ marks.closing :: after ∧ after.head? ≠ some marks.closing := by
  fun_induction readBody marks letters generalizing body after with
  | case1 => cases found
  | case2 =>
      cases found
      simp [double]
  | case3 => cases found
  -- Two closing marks are one letter of the body.
  | case4 rest inductionHypothesis =>
      obtain ⟨⟨inner, behind⟩, foundRest, same⟩ := Option.map_eq_some_iff.mp found
      cases same
      obtain ⟨rfl, ends⟩ := inductionHypothesis foundRest
      exact ⟨by simp [double], ends⟩
  -- A closing mark that stands alone ends the body.
  | case5 next rest notClosing =>
      cases found
      exact ⟨rfl, by simpa using notClosing⟩
  | case6 letter next rest notClosing inductionHypothesis =>
      obtain ⟨⟨inner, behind⟩, foundRest, same⟩ := Option.map_eq_some_iff.mp found
      cases same
      obtain ⟨split, ends⟩ := inductionHypothesis foundRest
      exact ⟨by simp [double, notClosing, split], ends⟩

/-- The reader accepts what stands between the marks with its closing marks doubled, and nothing else. -/
theorem read?_eq_some_iff :
    marks.read? letters = some (body, after) ↔
      letters = (marks.enclose (String.ofList body)).toList ++ after ∧
        after.head? ≠ some marks.closing := by
  have written : (marks.enclose (String.ofList body)).toList ++ after =
      marks.opening :: (marks.double body ++ marks.closing :: after) := by
    simp [enclose]
  rw [written]
  constructor
  · intro found
    cases letters with
    | nil => cases found
    | cons first rest =>
        rw [read?] at found
        split at found
        · rename_i isOpening
          obtain ⟨rfl, ends⟩ := eq_double_of_readBody found
          exact ⟨by rw [isOpening], ends⟩
        · cases found
  · rintro ⟨rfl, ends⟩
    rw [read?, if_pos rfl]
    exact readBody_double marks body after ends

end Text.Marks

namespace Dialect

/-- In each dialect the reader finds an identifier at the beginning of a text exactly when the text begins with the
quoted identifier and no other closing mark follows. So no identifier ends its quotes early or runs on behind
them, and two identifiers are never quoted the same. -/
theorem quote_isReadable (dialect : Dialect) :
    (∀ identifier text : String, text.toList.head? ≠ some dialect.marks.closing →
      dialect.marks.read? (dialect.quote identifier ++ text).toList =
        some (identifier.toList, text.toList)) ∧
      (∀ (letters after : List Char) (identifier : String),
        dialect.marks.read? letters = some (identifier.toList, after) →
          letters = (dialect.quote identifier).toList ++ after ∧
            after.head? ≠ some dialect.marks.closing) ∧
      Function.Injective dialect.quote := by
  have readBack (identifier : String) (after : List Char)
      (ends : after.head? ≠ some dialect.marks.closing) :
      dialect.marks.read? ((dialect.quote identifier).toList ++ after) =
        some (identifier.toList, after) := by
    rw [Text.Marks.read?_eq_some_iff, String.ofList_toList]
    exact ⟨rfl, ends⟩
  refine ⟨fun identifier text ends => ?_, fun letters after identifier found => ?_, ?_⟩
  · rw [String.toList_append]
    exact readBack identifier text.toList ends
  · rw [Text.Marks.read?_eq_some_iff, String.ofList_toList] at found
    exact found
  · intro identifier other same
    have first := readBack identifier [] (by simp)
    have second := readBack other [] (by simp)
    rw [same, second, Option.some.injEq, Prod.mk.injEq] at first
    exact (String.toList_inj.mp first.1).symm

/-- An identifier that ends with two closing marks, in front of another quoted identifier. -/
theorem quote_of_closingMarks :
    sqlServer.quote "a]]" = "[a]]]]]" ∧
      sqlServer.marks.read? (sqlServer.quote "a]]" ++ " OR [b]").toList =
        some ("a]]".toList, " OR [b]".toList) :=
  ⟨by decide, (quote_isReadable sqlServer).1 "a]]" " OR [b]" (by decide)⟩

end Dialect

end SqlTemplate
