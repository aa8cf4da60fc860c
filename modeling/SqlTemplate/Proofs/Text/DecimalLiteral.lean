import Mathlib.Data.List.Induction
import Mathlib.Data.Nat.Digits.Defs
import SqlTemplate.Proofs.Text.Trim

/-!
This file says which letters are a decimal literal, and of which number. A whole number is read from every
literal; a natural number is read from those without a minus sign.
-/

namespace SqlTemplate.Text

/-- One or more of the digits `0` to `9`. -/
structure DigitRun (letters : List Char) : Prop where
  nonempty : letters ≠ []
  isDigit : ∀ letter ∈ letters, letter.isDigit = true

theorem digitRun_iff (letters : List Char) :
    DigitRun letters ↔ (!letters.isEmpty && letters.all Char.isDigit) = true := by
  rw [Bool.and_eq_true, Bool.not_eq_true', List.isEmpty_eq_false_iff, List.all_eq_true]
  exact ⟨fun ⟨nonempty, isDigit⟩ => ⟨nonempty, isDigit⟩,
    fun ⟨nonempty, isDigit⟩ => ⟨nonempty, isDigit⟩⟩

instance (letters : List Char) : Decidable (DigitRun letters) :=
  decidable_of_iff _ (digitRun_iff letters).symm

/-- The number that digits denote in base ten, where the last digit counts the ones. -/
def denoted (digits : List Char) : Nat :=
  Nat.ofDigits 10 (digits.map fun digit => digit.toNat - '0'.toNat).reverse

/-- A decimal literal of a number is a run of digits behind at most one sign. -/
inductive DecimalLiteral : List Char → Int → Prop
  | unsigned {digits : List Char} (run : DigitRun digits) :
      DecimalLiteral digits (denoted digits)
  | plus {digits : List Char} (run : DigitRun digits) :
      DecimalLiteral ('+' :: digits) (denoted digits)
  | minus {digits : List Char} (run : DigitRun digits) :
      DecimalLiteral ('-' :: digits) (-(denoted digits : Int))

/-- Reading digits from the left gives the number that they denote. -/
theorem digitsValue_eq_denoted (digits : List Char) : digitsValue digits = denoted digits := by
  induction digits using List.reverseRecOn with
  | nil => rfl
  | append_singleton earlier last inductionHypothesis =>
      rw [digitsValue_append, inductionHypothesis, denoted, denoted, List.map_append,
        List.map_singleton, List.reverse_append, List.reverse_singleton, List.singleton_append,
        Nat.ofDigits_cons]
      exact Nat.add_comm _ _

namespace DigitRun

variable {digits : List Char}

theorem readDigits?_eq (run : DigitRun digits) : readDigits? digits = some (denoted digits) := by
  have allDigits : digits.all Char.isDigit = true := List.all_eq_true.mpr run.isDigit
  simp [readDigits?, run.nonempty, allDigits, digitsValue_eq_denoted]

/-- No sign is a digit, so a run begins with none. -/
theorem ne_cons (run : DigitRun digits) {sign : Char} (notDigit : sign.isDigit = false)
    (rest : List Char) : digits ≠ sign :: rest := by
  rintro rfl
  rw [run.isDigit sign List.mem_cons_self] at notDigit
  cases notDigit

theorem readNatural?_eq (run : DigitRun digits) : readNatural? digits = some (denoted digits) := by
  rw [readNatural?.eq_def]
  split
  · exact absurd rfl (run.ne_cons (by decide) _)
  · exact run.readDigits?_eq

theorem readInteger?_eq (run : DigitRun digits) :
    readInteger? digits = some (denoted digits : Int) := by
  rw [readInteger?.eq_def]
  split
  · exact absurd rfl (run.ne_cons (by decide) _)
  · exact absurd rfl (run.ne_cons (by decide) _)
  · rw [run.readDigits?_eq]
    rfl

end DigitRun

namespace DecimalLiteral

variable {letters : List Char} {number : Int}

theorem ne_nil (literal : DecimalLiteral letters number) : letters ≠ [] := by
  cases literal with
  | unsigned run => exact run.nonempty
  | plus run => exact List.cons_ne_nil _ _
  | minus run => exact List.cons_ne_nil _ _

/-- The number of a literal is read from it. -/
theorem readInteger?_eq (literal : DecimalLiteral letters number) :
    readInteger? letters = some number := by
  cases literal with
  | unsigned run => exact run.readInteger?_eq
  | plus run =>
      rw [readInteger?, run.readDigits?_eq]
      rfl
  | minus run =>
      rw [readInteger?, run.readDigits?_eq]
      rfl

/-- No natural number is read from a literal with a minus sign, whose number is not positive. Any other
literal is read. -/
theorem readNatural?_eq_or (literal : DecimalLiteral letters number) :
    (readNatural? letters = none ∧ number ≤ 0) ∨
      ∃ magnitude : Nat, readNatural? letters = some magnitude ∧ number = magnitude := by
  cases literal with
  | unsigned run => exact .inr ⟨_, run.readNatural?_eq, rfl⟩
  | plus run => exact .inr ⟨_, run.readDigits?_eq, rfl⟩
  | minus run => exact .inl ⟨rfl, by omega⟩

/-- Neither a sign nor a digit is blank. -/
theorem isBlank_eq_false (literal : DecimalLiteral letters number) :
    ∀ letter ∈ letters, isBlank letter = false := by
  have digits {run : List Char} (isRun : DigitRun run) : ∀ letter ∈ run, isBlank letter = false :=
    fun letter member => isBlank_of_isDigit (isRun.isDigit letter member)
  cases literal with
  | unsigned run => exact digits run
  | plus run => exact List.forall_mem_cons.mpr ⟨by decide, digits run⟩
  | minus run => exact List.forall_mem_cons.mpr ⟨by decide, digits run⟩

end DecimalLiteral

/-- Digits are read only from a run of them. -/
theorem digitRun_of_readDigits? {letters : List Char} {number : Nat}
    (read : readDigits? letters = some number) : DigitRun letters ∧ number = denoted letters := by
  rw [readDigits?] at read
  split at read
  · cases read
  · rename_i isRun
    rw [Bool.not_eq_true, Bool.or_eq_false_iff, ← Bool.not_eq_true', Bool.not_eq_false'] at isRun
    refine ⟨(digitRun_iff letters).mpr (Bool.and_eq_true_iff.mpr isRun), ?_⟩
    rw [← digitsValue_eq_denoted]
    exact (Option.some.inj read).symm

/-- A whole number is read from its literals and from nothing else. -/
theorem readInteger?_eq_some_iff {letters : List Char} {number : Int} :
    readInteger? letters = some number ↔ DecimalLiteral letters number := by
  refine ⟨fun read => ?_, DecimalLiteral.readInteger?_eq⟩
  rw [readInteger?.eq_def] at read
  split at read
  · obtain ⟨magnitude, digits, rfl⟩ := Option.map_eq_some_iff.mp read
    obtain ⟨run, rfl⟩ := digitRun_of_readDigits? digits
    exact .plus run
  · obtain ⟨magnitude, digits, rfl⟩ := Option.map_eq_some_iff.mp read
    obtain ⟨run, rfl⟩ := digitRun_of_readDigits? digits
    exact .minus run
  · obtain ⟨magnitude, digits, rfl⟩ := Option.map_eq_some_iff.mp read
    obtain ⟨run, rfl⟩ := digitRun_of_readDigits? digits
    exact .unsigned run

/-- The decimal digits of a number are a run that denotes it, also behind zeros. -/
theorem denoted_zeros_naturalLetters (zeros number : Nat) :
    DigitRun (List.replicate zeros '0' ++ naturalLetters number) ∧
      denoted (List.replicate zeros '0' ++ naturalLetters number) = number := by
  constructor
  · refine ⟨fun nothing => naturalLetters_ne_nil number (List.append_eq_nil_iff.mp nothing).2, ?_⟩
    rw [List.forall_mem_append]
    refine ⟨fun letter member => ?_, fun letter => isDigit_of_mem_naturalLetters⟩
    rw [(List.mem_replicate.mp member).2]
    decide
  · rw [← digitsValue_eq_denoted]
    induction zeros with
    | zero => exact digitsValue_naturalLetters number
    | succ zeros inductionHypothesis => exact inductionHypothesis

end SqlTemplate.Text
