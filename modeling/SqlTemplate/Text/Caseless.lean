/-!
This file compares names without regard to the case of the 26 Latin letters.
-/

namespace SqlTemplate.Text

/-- The letters `A` to `Z` become small; every other character stays as it is. -/
def lowerCase (text : String) : String :=
  String.ofList (text.toList.map Char.toLower)

/-- Two names agree when their lower-case forms are equal. -/
def sameName (first second : String) : Bool :=
  lowerCase first == lowerCase second

theorem sameName_iff (first second : String) :
    sameName first second = true ↔ lowerCase first = lowerCase second := by
  simp [sameName]

theorem sameName_refl (name : String) : sameName name name = true := by
  simp [sameName]

theorem sameName_symm (first second : String) :
    sameName first second = sameName second first := by
  simp [sameName, Bool.beq_comm]

end SqlTemplate.Text
