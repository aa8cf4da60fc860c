import SqlTemplate.Composer.Basic
import SqlTemplate.Proofs.Topology.RouteFault

/-!
This file says where the faults of a statement come from. A statement is refused for its tokens, or because a call of
the locator fails. When the calls of the locator return, so does the build.
-/

namespace SqlTemplate

namespace Statement

variable {context : Context} {parameters : Parameters} {fault : Fault}

/-- A token is not written because its template has not one slot, or because its table has no physical name. -/
theorem fault_of_writeToken {numbering : Numbering} {token : Token}
    (failed : writeToken context parameters numbering token = .error fault) :
    (∃ cause, fault = .state cause) ∨
      ∃ reference, context.physicalName parameters reference = .error fault := by
  cases token with
  | table reference =>
      rw [writeToken, bind_ok_eq_error_iff] at failed
      exact .inr ⟨reference, failed⟩
  | columnExpression columnName body =>
      obtain ⟨cause, -, rfl⟩ := (mapError_eq_error_iff _ _ _).mp failed
      exact .inl ⟨cause, rfl⟩
  | _ => cases failed

theorem fault_of_writeFrom {numbering : Numbering} {front : String} {tokens : List Token}
    (failed : writeFrom context parameters numbering front tokens = .error fault) :
    (∃ cause, fault = .state cause) ∨
      ∃ reference, context.physicalName parameters reference = .error fault := by
  induction tokens generalizing numbering front with
  | nil => cases failed
  | cons token rest inductionHypothesis =>
      rcases (bind_eq_error_iff _ _ _).mp failed with own | ⟨⟨fragment, after⟩, -, later⟩
      · exact fault_of_writeToken own
      · exact inductionHypothesis later

/-- A statement is not rendered because of its tokens, or because of a table without a physical name. -/
theorem fault_of_render {tokens : List Token} (failed : render context tokens = .error fault) :
    (∃ cause, fault = .state cause) ∨
      ∃ parameters reference, context.physicalName parameters reference = .error fault := by
  rcases (bind_eq_error_iff _ _ _).mp failed with uncollected | ⟨parameters, -, later⟩
  · obtain ⟨cause, -, rfl⟩ := (mapError_eq_error_iff _ _ _).mp uncollected
    exact .inl ⟨cause, rfl⟩
  · rw [bind_ok_eq_error_iff] at later
    exact (fault_of_writeFrom later).imp_right fun unnamed => ⟨parameters, unnamed⟩

/-- When the calls of the locator return, a statement is rendered or an error says why it is not. -/
theorem render_ne_zeroDivisor (returns : context.Returns) (tokens : List Token) :
    render context tokens ≠ .error .zeroDivisor := by
  intro failed
  rcases fault_of_render failed with ⟨cause, same⟩ | ⟨parameters, reference, unnamed⟩
  · cases same
  · exact returns.physicalName_ne_zeroDivisor unnamed

end Statement

namespace Composer

variable {composer : Composer}

/-- A statement is not built because of its tokens, or because of a table without a physical name. -/
theorem fault_of_build {fault : Fault} (failed : composer.build = .error fault) :
    (∃ cause, fault = .state cause) ∨
      ∃ parameters reference, composer.context.physicalName parameters reference = .error fault := by
  rw [build] at failed
  split at failed
  · cases failed
    exact .inl ⟨_, rfl⟩
  · rcases (bind_eq_error_iff _ _ _).mp failed with unmelted | ⟨tokens, -, unrendered⟩
    · obtain ⟨cause, -, rfl⟩ := (mapError_eq_error_iff _ _ _).mp unmelted
      exact .inl ⟨cause, rfl⟩
    · exact Statement.fault_of_render unrendered

/-- When the calls of the locator return, a build succeeds or an error says why it does not. -/
theorem build_ne_zeroDivisor (returns : composer.context.Returns) :
    composer.build ≠ .error .zeroDivisor := by
  intro failed
  rcases fault_of_build failed with ⟨cause, same⟩ | ⟨parameters, reference, unnamed⟩
  · cases same
  · exact returns.physicalName_ne_zeroDivisor unnamed

end Composer

end SqlTemplate
