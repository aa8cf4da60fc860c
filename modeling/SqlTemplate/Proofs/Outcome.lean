/-!
This file opens computations that may fail, from a result back to the results of their steps.
-/

namespace SqlTemplate

variable {Fault Other First Second Shown : Type}

/-- After a step that succeeds the next one goes on with its value. -/
theorem ok_bind (value : First) (second : First → Except Fault Second) :
    (Except.ok value >>= second) = second value := rfl

/-- After a step that fails there is no next one. -/
theorem error_bind (fault : Fault) (second : First → Except Fault Second) :
    (Except.error fault >>= second) = .error fault := rfl

/-- Two steps succeed when the first one does and then the second one. -/
theorem bind_eq_ok_iff (first : Except Fault First) (second : First → Except Fault Second)
    (result : Second) :
    (first >>= second) = .ok result ↔ ∃ value, first = .ok value ∧ second value = .ok result := by
  cases first with
  | error fault => exact ⟨nofun, fun ⟨_, failed, _⟩ => by cases failed⟩
  | ok value => exact ⟨fun done => ⟨value, rfl, done⟩, fun ⟨_, rfl, done⟩ => done⟩

/-- Two steps fail as the first one does, or as the second one does after it. -/
theorem bind_eq_error_iff (first : Except Fault First) (second : First → Except Fault Second)
    (fault : Fault) :
    (first >>= second) = .error fault ↔
      first = .error fault ∨ ∃ value, first = .ok value ∧ second value = .error fault := by
  cases first with
  | error cause =>
      constructor
      · intro failed
        cases failed
        exact .inl rfl
      · rintro (failed | ⟨_, succeeded, _⟩)
        · cases failed
          rfl
        · cases succeeded
  | ok value =>
      constructor
      · exact fun failed => .inr ⟨value, rfl, failed⟩
      · rintro (failed | ⟨_, succeeded, failed⟩)
        · cases failed
        · cases succeeded
          exact failed

/-- A last step that always succeeds does not matter to a fault. -/
theorem bind_ok_eq_error_iff (first : Except Fault First) (last : First → Second) (fault : Fault) :
    (first >>= fun value => Except.ok (last value)) = .error fault ↔ first = .error fault := by
  cases first with
  | error cause => exact ⟨fun failed => by cases failed; rfl, fun failed => by cases failed; rfl⟩
  | ok value => exact ⟨nofun, nofun⟩

theorem ok_mapError (rename : Fault → Other) (value : First) :
    (Except.ok value).mapError rename = .ok value := rfl

/-- Another name for the fault does not matter to a result. -/
theorem mapError_eq_ok_iff (rename : Fault → Other) (outcome : Except Fault First) (result : First) :
    outcome.mapError rename = .ok result ↔ outcome = .ok result := by
  cases outcome with
  | error fault => exact ⟨nofun, nofun⟩
  | ok value =>
      constructor
      · intro same
        cases same
        rfl
      · intro same
        cases same
        rfl

/-- A fault under another name was a fault before. -/
theorem mapError_eq_error_iff (rename : Fault → Other) (outcome : Except Fault First)
    (renamed : Other) :
    outcome.mapError rename = .error renamed ↔
      ∃ fault, outcome = .error fault ∧ rename fault = renamed := by
  cases outcome with
  | ok value => exact ⟨nofun, fun ⟨_, failed, _⟩ => by cases failed⟩
  | error fault =>
      constructor
      · intro same
        cases same
        exact ⟨fault, rfl, rfl⟩
      · rintro ⟨_, failed, rfl⟩
        cases failed
        rfl

/-- Two outcomes show the same exactly when both fail with the same fault, or both succeed and their results
show the same. -/
theorem map_eq_map_iff (showFirst : First → Shown) (showSecond : Second → Shown)
    (first : Except Fault First) (second : Except Fault Second) :
    first.map showFirst = second.map showSecond ↔
      (∃ fault, first = .error fault ∧ second = .error fault) ∨
        ∃ one other, first = .ok one ∧ second = .ok other ∧ showFirst one = showSecond other := by
  constructor
  · intro same
    cases first with
    | error fault =>
        cases second with
        | error another =>
            cases same
            exact .inl ⟨fault, rfl, rfl⟩
        | ok other => cases same
    | ok one =>
        cases second with
        | error another => cases same
        | ok other => exact .inr ⟨one, other, rfl, rfl, Except.ok.inj same⟩
  · rintro (⟨fault, rfl, rfl⟩ | ⟨one, other, rfl, rfl, same⟩)
    · rfl
    · exact congrArg Except.ok same

end SqlTemplate
