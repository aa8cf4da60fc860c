import Mathlib.Algebra.GroupWithZero.Nat
import SqlTemplate.Proofs.Composer.Faults
import SqlTemplate.Proofs.Context.Changes

/-!
This file proves that nothing is divided by zero in a topology that was validated. The check is made once,
when the topology is read. The division is made much later, when a table of a statement is routed, and every
way to it leads through a rule that was checked.
-/

namespace SqlTemplate

namespace ShardRule

/-- The modulus as a word of 64 bits. -/
def divisor (rule : ShardRule) : Int64 :=
  Int64.ofNat rule.modulus.toNat

theorem toInt_divisor (rule : ShardRule) : rule.divisor.toInt = rule.modulus.toNat := by
  have small : rule.modulus.toNat < 2 ^ 32 := rule.modulus.toNat_lt
  apply Int64.toInt_ofNat_of_lt
  omega

/-- The remainder in words of 64 bits. The machine gives a remainder the sign of the number, so the divisor
is added to a negative one. -/
def wordRemainder (rule : ShardRule) (number : Int64) : Int64 :=
  let remainder := number % rule.divisor
  if remainder < 0 then remainder + rule.divisor else remainder

/-- The remainder that is never negative, by way of the one with the sign of the number. -/
theorem emod_eq_of_tmod (number : Int) {divisor : Int} (positive : 0 < divisor) :
    number % divisor =
      if number.tmod divisor < 0 then number.tmod divisor + divisor else number.tmod divisor := by
  have below : number.tmod divisor < divisor := Int.tmod_lt_of_pos _ positive
  have above : -divisor < number.tmod divisor := Int.lt_tmod_of_pos _ positive
  have same : number % divisor = number.tmod divisor % divisor := by
    have parts := Int.mul_tdiv_add_tmod number divisor
    calc number % divisor
        = (divisor * number.tdiv divisor + number.tmod divisor) % divisor := by rw [parts]
      _ = number.tmod divisor % divisor := Int.mul_add_emod_self_left _ _ _
  rw [same]
  split
  · rw [Int.emod_eq_add_self_emod]
    apply Int.emod_eq_of_lt <;> omega
  · apply Int.emod_eq_of_lt <;> omega

/-- No word overflows on the way to the remainder, which is that of the integers. -/
theorem toInt_wordRemainder {rule : ShardRule} (positive : 0 < rule.modulus.toNat)
    (number : Int64) :
    (rule.wordRemainder number).toInt = number.toInt % (rule.modulus.toNat : Int) := by
  have small : rule.modulus.toNat < 2 ^ 32 := rule.modulus.toNat_lt
  have signed : (number % rule.divisor).toInt = number.toInt.tmod rule.modulus.toNat := by
    rw [Int64.toInt_mod, toInt_divisor]
  have above : -(rule.modulus.toNat : Int) < number.toInt.tmod rule.modulus.toNat :=
    Int.lt_tmod_of_pos _ (by omega)
  have sign : number % rule.divisor < 0 ↔ number.toInt.tmod rule.modulus.toNat < 0 := by
    rw [Int64.lt_iff_toInt_lt, signed]
    rfl
  rw [emod_eq_of_tmod _ (by omega), wordRemainder]
  by_cases negative : number.toInt.tmod rule.modulus.toNat < 0
  · rw [if_pos negative, if_pos (sign.mpr negative), Int64.toInt_add, signed, toInt_divisor]
    apply Int.bmod_eq_of_le <;> omega
  · rw [if_neg negative, if_neg (mt sign.mp negative), signed]

end ShardRule

namespace Composer

/-- No program divides by zero in a validated topology. -/
theorem build_run_ne_zeroDivisor {topology : Topology} (valid : topology.validate = .ok ())
    (program : List Step) :
    ((fresh (some topology.locator)).run program).build ≠ .error .zeroDivisor := by
  have chosen := topology_run (fresh (some topology.locator)) program
  exact build_ne_zeroDivisor (Context.returns_of_validate chosen valid)

end Composer

namespace Topology

/-- A topology is valid when every table of every database has a positive modulus and a column that is not
blank; otherwise the first table without them is blamed, and its modulus first. What any reader finds in a
document or a file is valid. In a valid topology no way divides by zero and no program does, and each remainder
fits the word that it is taken in and lies below the modulus. -/
theorem division_of_validate (topology : Topology) :
    (topology.validate = .ok () ↔
      ∀ name table rule, topology.Declares name table rule → rule.Sound) ∧
    (∀ fault, topology.validate = .error fault ↔
      ∃ name table rule, topology.FirstFlawed name table rule ∧ fault = flawOf name table rule) ∧
    (∀ (reader : Reader) document, reader.ofDocument document = .ok topology →
      topology.validate = .ok ()) ∧
    (∀ (reader : Reader) path content, reader.ofFile path content = .ok topology →
      topology.validate = .ok ()) ∧
    (topology.validate = .ok () →
      (∀ name table shardId, topology.byId name table shardId ≠ .error .zeroDivisor) ∧
      (∀ name table value, topology.byValue name table value ≠ .error .zeroDivisor) ∧
      (∀ name table hints parameters,
        topology.byHints name table hints parameters ≠ .error .zeroDivisor) ∧
      (∀ program,
        ((Composer.fresh (some topology.locator)).run program).build ≠ .error .zeroDivisor) ∧
      ∀ name table database rule value number,
        topology.sharded name table = .ok (database, rule) → value.integerView? = some number →
          let remainder := (rule.wordRemainder number).toInt
          shardNumber table rule value = .ok remainder.toNat ∧
            remainder = number.toInt % (rule.modulus.toNat : Int) ∧
            0 ≤ remainder ∧ remainder < rule.modulus.toNat) := by
  refine ⟨validate_eq_ok_iff, fun _ => validate_eq_error_iff, fun _ _ => validate_of_ofDocument,
    fun _ _ _ => validate_of_ofFile, fun valid => ⟨?_, ?_, ?_, ?_, ?_⟩⟩
  · exact fun name table shardId failed => returns_locator valid name table (.byId shardId failed)
  · exact fun name table value failed => returns_locator valid name table (.byValue value failed)
  · exact fun name table hints parameters failed =>
      returns_locator valid name table (.byHints hints parameters failed)
  · exact Composer.build_run_ne_zeroDivisor valid
  · intro name table database rule value number found view remainder
    have positive := modulus_pos_of_sharded valid found
    have exact : remainder = number.toInt % (rule.modulus.toNat : Int) :=
      ShardRule.toInt_wordRemainder positive number
    refine ⟨?_, exact, ?_, ?_⟩
    · rw [shardNumber_of_view positive view, exact, ShardRule.shardOf]
    · rw [exact]
      apply Int.emod_nonneg
      omega
    · rw [exact]
      apply Int.emod_lt_of_pos
      omega

/-- The least number has a shard in a shop that spreads its orders over three. -/
theorem division_of_shop :
    shop.validate = .ok () ∧
      shardNumber "orders" ⟨"customer_id", 3⟩ (.integer Int64.minValue) = .ok 1 ∧
      shop.byValue "shop" "orders" (.integer Int64.minValue) ≠ .error .zeroDivisor := by
  have valid : shop.validate = .ok () := by decide
  obtain ⟨-, byValue, -, -, remainders⟩ := (division_of_validate shop).2.2.2.2 valid
  have remainder := remainders "shop" "orders" shopDatabase ⟨"customer_id", 3⟩
    (.integer Int64.minValue) Int64.minValue rfl rfl
  exact ⟨valid, remainder.1, byValue "shop" "orders" _⟩

end Topology

end SqlTemplate
