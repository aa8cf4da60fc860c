/-!
This file writes whole numbers as bytes, the most significant byte first, and reads them back.
-/

namespace SqlTemplate.Binary

/-- So many numbers can be written with `count` bytes. -/
def byteRange (count : Nat) : Nat := Nat.pow 256 count

/-- The last `count` bytes of a natural number. -/
def naturalBytes : (count number : Nat) → List UInt8
  | 0, _ => []
  | count + 1, number => UInt8.ofNat (number / byteRange count % 256) :: naturalBytes count number

/-- A whole number is written in two's complement with `count` bytes. -/
def integerBytes (count : Nat) (number : Int) : List UInt8 :=
  naturalBytes count (number % Int.ofNat (byteRange count)).toNat

/-- The bytes are read as a natural number. -/
def readNaturalBytes (bytes : List UInt8) : Nat :=
  bytes.foldl (fun total byte => 256 * total + byte.toNat) 0

/-- The bytes are read as a whole number in two's complement. -/
def readIntegerBytes (bytes : List UInt8) : Int :=
  Int.bmod (Int.ofNat (readNaturalBytes bytes)) (byteRange bytes.length)

/-- A whole number fits when two's complement with `count` bytes can hold it. -/
def fitsBytes (count : Nat) (number : Int) : Bool :=
  -Int.ofNat (byteRange count) ≤ 2 * number && 2 * number < Int.ofNat (byteRange count)

@[simp] theorem length_naturalBytes (count number : Nat) :
    (naturalBytes count number).length = count := by
  induction count with
  | zero => rfl
  | succ count inductionHypothesis => simp [naturalBytes, inductionHypothesis]

@[simp] theorem length_integerBytes (count : Nat) (number : Int) :
    (integerBytes count number).length = count := by
  simp [integerBytes]

theorem byteRange_succ (count : Nat) : byteRange (count + 1) = 256 * byteRange count := by
  change byteRange count * 256 = _
  exact Nat.mul_comm _ _

theorem byteRange_pos (count : Nat) : 0 < byteRange count :=
  Nat.pow_pos (by decide)

/-- Reading on from a total moves it in front of what the bytes are read as. -/
theorem foldl_eq_readNaturalBytes (bytes : List UInt8) (total : Nat) :
    bytes.foldl (fun total byte => 256 * total + byte.toNat) total =
      total * byteRange bytes.length + readNaturalBytes bytes := by
  induction bytes generalizing total with
  | nil => simp [readNaturalBytes, byteRange]
  | cons byte rest inductionHypothesis =>
      rw [readNaturalBytes, List.foldl_cons, List.foldl_cons, inductionHypothesis,
        inductionHypothesis (256 * 0 + byte.toNat), List.length_cons, byteRange_succ,
        ← Nat.add_assoc, Nat.add_mul, Nat.mul_zero, Nat.zero_add, ← Nat.mul_assoc,
        Nat.mul_comm 256 total]

/-- The first byte counts as often as there are numbers with the bytes behind it. -/
theorem readNaturalBytes_cons (byte : UInt8) (rest : List UInt8) :
    readNaturalBytes (byte :: rest) =
      byte.toNat * byteRange rest.length + readNaturalBytes rest := by
  rw [readNaturalBytes, List.foldl_cons, Nat.mul_zero, Nat.zero_add, foldl_eq_readNaturalBytes]

/-- The last bytes of a natural number are read as what is left of it beyond the number of values
that they have. -/
theorem readNaturalBytes_naturalBytes (count number : Nat) :
    readNaturalBytes (naturalBytes count number) = number % byteRange count := by
  induction count with
  | zero => exact (Nat.mod_one number).symm
  | succ count inductionHypothesis =>
      have byte : (UInt8.ofNat (number / byteRange count % 256)).toNat =
          number / byteRange count % 256 :=
        UInt8.toNat_ofNat_of_lt (Nat.mod_lt _ (by decide))
      rw [naturalBytes, readNaturalBytes_cons, byte, inductionHypothesis, length_naturalBytes,
        byteRange_succ, Nat.mul_comm 256, Nat.mod_mul, Nat.add_comm, Nat.mul_comm]

/-- The last bytes do not see what is beyond them. -/
theorem naturalBytes_mod_of_dvd {count multiple : Nat} (beyond : byteRange count ∣ multiple)
    (number : Nat) : naturalBytes count (number % multiple) = naturalBytes count number := by
  induction count with
  | zero => rfl
  | succ count inductionHypothesis =>
      rw [byteRange_succ] at beyond
      have later := Nat.dvd_trans (Nat.dvd_mul_left _ _) beyond
      obtain ⟨factor, rfl⟩ := beyond
      have first : number % (256 * byteRange count * factor) / byteRange count % 256 =
          number / byteRange count % 256 := by
        rw [Nat.mul_comm 256, Nat.mul_assoc, Nat.mod_mul_right_div_self, Nat.mod_mul_right_mod]
      rw [naturalBytes, naturalBytes, first, inductionHypothesis later]

/-- A whole number that fits is read back from its bytes. -/
theorem readIntegerBytes_integerBytes {count : Nat} {number : Int}
    (fits : fitsBytes count number = true) :
    readIntegerBytes (integerBytes count number) = number := by
  have positive := byteRange_pos count
  have residue : ((number % (byteRange count : Int)).toNat : Int) = number % byteRange count :=
    Int.toNat_of_nonneg (Int.emod_nonneg _ (by omega))
  simp only [fitsBytes, Bool.and_eq_true, decide_eq_true_eq, Int.ofNat_eq_natCast] at fits
  rw [readIntegerBytes, length_integerBytes, integerBytes, readNaturalBytes_naturalBytes,
    Int.ofNat_eq_natCast, Int.ofNat_eq_natCast, Int.natCast_emod, residue, Int.emod_emod,
    Int.emod_bmod]
  apply Int.bmod_eq_of_le <;> omega

/-- A whole number that two's complement with `count` bytes can hold. -/
structure Word (count : Nat) where
  number : Int
  fits : fitsBytes count number = true
  deriving DecidableEq, Repr

namespace Word

/-- Eight bytes hold every word of 64 bits. -/
def ofInt64 (number : Int64) : Word 8 where
  number := number.toInt
  fits := by
    have least := number.le_toInt
    have greatest := number.toInt_lt
    have range : Int.ofNat (byteRange 8) = 2 ^ 64 := rfl
    simp only [fitsBytes, range, Bool.and_eq_true, decide_eq_true_eq]
    omega

end Word

end SqlTemplate.Binary
