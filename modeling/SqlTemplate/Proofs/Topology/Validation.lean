import SqlTemplate.Proofs.Outcome
import SqlTemplate.Topology.Document

/-!
This file says which topologies are valid and what is wrong with the others. The entries of a topology stand
in the order of their names, so the flaw that is found first belongs to the least names.
-/

namespace SqlTemplate

namespace Keyed

variable {Item Found : Type} {table : Keyed Item}

/-- The entries before an entry have lesser keys, and those behind it have greater ones. -/
theorem exists_split {entry : String × Item} (member : entry ∈ table.entries) :
    ∃ before after, table.entries = before ++ entry :: after ∧
      (∀ earlier ∈ before, earlier.1 < entry.1) ∧ ∀ later ∈ after, entry.1 < later.1 := by
  obtain ⟨before, after, split⟩ := List.append_of_mem member
  have sorted := table.sorted
  rw [split, List.pairwise_append, List.pairwise_cons] at sorted
  obtain ⟨-, ⟨above, -⟩, below⟩ := sorted
  exact ⟨before, after, split, fun earlier within => below _ within _ List.mem_cons_self, above⟩

/-- An item is determined by its key. -/
theorem eq_of_mem {key : String} {first second : Item} (one : (key, first) ∈ table.entries)
    (other : (key, second) ∈ table.entries) : first = second := by
  obtain ⟨before, after, split, below, above⟩ := exists_split one
  rw [split, List.mem_append, List.mem_cons] at other
  rcases other with earlier | same | later
  · exact absurd (below _ earlier) (String.lt_irrefl key)
  · exact (congrArg Prod.snd same).symm
  · exact absurd (above _ later) (String.lt_irrefl key)

/-- A search through a table finds what there is to find under the least key. -/
theorem findSome?_eq_some_iff (search : String × Item → Option Found) (found : Found) :
    table.entries.findSome? search = some found ↔
      ∃ entry ∈ table.entries, search entry = some found ∧
        ∀ other ∈ table.entries, other.1 < entry.1 → search other = none := by
  constructor
  · intro success
    obtain ⟨earlier, entry, later, located, hit, missed⟩ :=
      List.findSome?_eq_some_iff.mp success
    have member : entry ∈ table.entries := by simp [located]
    refine ⟨entry, member, hit, fun other within less => ?_⟩
    have sorted := table.sorted
    rw [located, List.pairwise_append, List.pairwise_cons] at sorted
    rw [located, List.mem_append, List.mem_cons] at within
    rcases within with before | rfl | behind
    · exact missed other before
    · exact absurd less (String.lt_irrefl _)
    · exact absurd (String.lt_trans less (sorted.2.1.1 other behind)) (String.lt_irrefl _)
  · rintro ⟨entry, member, hit, missed⟩
    obtain ⟨before, after, split, below, -⟩ := exists_split member
    refine List.findSome?_eq_some_iff.mpr ⟨before, entry, after, split, hit, fun other earlier => ?_⟩
    exact missed other (by simp [split, earlier]) (below other earlier)

end Keyed

/-- A sound rule divides by a positive modulus and names its column. -/
structure ShardRule.Sound (rule : ShardRule) : Prop where
  positive : 0 < rule.modulus
  named : Text.isBlankText rule.column = false

namespace Topology

variable {topology : Topology} {name table : String} {rule : ShardRule} {fault : ConfigFault}

/-- The fault of a flawed rule. The modulus is blamed before the column. -/
def flawOf (name table : String) (rule : ShardRule) : ConfigFault :=
  if rule.modulus = 0 then .zeroModulus table name else .blankShardColumn table name

theorem ruleFlaw?_of_sound (sound : rule.Sound) : ruleFlaw? name table rule = none := by
  rw [ruleFlaw?, if_neg (UInt32.pos_iff_ne_zero.mp sound.positive), sound.named,
    if_neg Bool.false_ne_true]

theorem ruleFlaw?_of_not_sound (flawed : ¬ rule.Sound) :
    ruleFlaw? name table rule = some (flawOf name table rule) := by
  rw [ruleFlaw?, flawOf]
  by_cases zero : rule.modulus = 0
  · rw [if_pos zero, if_pos zero]
  · have blank : ¬ Text.isBlankText rule.column = false :=
      fun named => flawed ⟨UInt32.pos_iff_ne_zero.mpr zero, named⟩
    rw [if_neg zero, if_neg zero, if_pos ((Bool.not_eq_false _).mp blank)]

theorem ruleFlaw?_eq_none_iff : ruleFlaw? name table rule = none ↔ rule.Sound := by
  by_cases sound : rule.Sound
  · exact iff_of_true (ruleFlaw?_of_sound sound) sound
  · rw [ruleFlaw?_of_not_sound sound]
    exact iff_of_false nofun sound

/-- The database declares the table with the rule. -/
def Declares (topology : Topology) (name table : String) (rule : ShardRule) : Prop :=
  ∃ database, (name, database) ∈ topology.databases.entries ∧
    (table, rule) ∈ database.tables.entries

/-- The rule is the flawed one with the least names. Databases are compared before their tables. -/
structure FirstFlawed (topology : Topology) (name table : String) (rule : ShardRule) : Prop where
  declared : topology.Declares name table rule
  flawed : ¬ rule.Sound
  earlier : ∀ otherName otherTable other, topology.Declares otherName otherTable other →
    otherName < name ∨ otherName = name ∧ otherTable < table → other.Sound

theorem databaseFlaw?_eq_none_iff {database : Database} :
    databaseFlaw? name database = none ↔
      ∀ entry ∈ database.tables.entries, entry.2.Sound := by
  rw [databaseFlaw?, List.findSome?_eq_none_iff]
  exact forall₂_congr fun entry _ => ruleFlaw?_eq_none_iff

theorem validate_eq_ok_iff_flaw? : topology.validate = .ok () ↔ topology.flaw? = none := by
  rw [validate]
  cases topology.flaw? with
  | none => exact iff_of_true rfl rfl
  | some flaw => exact iff_of_false nofun nofun

theorem validate_eq_error_iff_flaw? :
    topology.validate = .error fault ↔ topology.flaw? = some fault := by
  rw [validate]
  cases topology.flaw? with
  | none => exact iff_of_false nofun nofun
  | some flaw => rw [Except.error.injEq, Option.some.injEq]

/-- A topology is valid when it declares every table with a sound rule. -/
theorem validate_eq_ok_iff :
    topology.validate = .ok () ↔
      ∀ name table rule, topology.Declares name table rule → rule.Sound := by
  rw [validate_eq_ok_iff_flaw?, flaw?, List.findSome?_eq_none_iff]
  constructor
  · rintro flawless name table rule ⟨database, known, declared⟩
    exact databaseFlaw?_eq_none_iff.mp (flawless _ known) _ declared
  · intro sound entry known
    exact databaseFlaw?_eq_none_iff.mpr fun declared member =>
      sound entry.1 declared.1 declared.2 ⟨entry.2, known, member⟩

/-- A topology that is not valid is refused for its first flawed rule. -/
theorem validate_eq_error_iff :
    topology.validate = .error fault ↔
      ∃ name table rule, topology.FirstFlawed name table rule ∧ fault = flawOf name table rule := by
  rw [validate_eq_error_iff_flaw?, flaw?, Keyed.findSome?_eq_some_iff]
  constructor
  · rintro ⟨⟨name, database⟩, known, hit, missed⟩
    obtain ⟨⟨table, rule⟩, declared, blamed, spared⟩ := (Keyed.findSome?_eq_some_iff _ _).mp hit
    have flawed : ¬ rule.Sound := by
      intro sound
      rw [ruleFlaw?_of_sound sound] at blamed
      cases blamed
    rw [ruleFlaw?_of_not_sound flawed] at blamed
    cases blamed
    refine ⟨name, table, rule, ⟨⟨database, known, declared⟩, flawed, ?_⟩, rfl⟩
    rintro otherName otherTable other ⟨within, otherKnown, otherDeclared⟩ (less | ⟨rfl, less⟩)
    · exact databaseFlaw?_eq_none_iff.mp (missed _ otherKnown less) _ otherDeclared
    · obtain rfl := Keyed.eq_of_mem known otherKnown
      exact ruleFlaw?_eq_none_iff.mp (spared _ otherDeclared less)
  · rintro ⟨name, table, rule, ⟨⟨database, known, declared⟩, flawed, earlier⟩, rfl⟩
    refine ⟨(name, database), known, ?_, ?_⟩
    · refine (Keyed.findSome?_eq_some_iff _ _).mpr ⟨(table, rule), declared, ?_, ?_⟩
      · exact ruleFlaw?_of_not_sound flawed
      · intro other otherDeclared less
        exact ruleFlaw?_of_sound
          (earlier name other.1 other.2 ⟨database, known, otherDeclared⟩ (.inr ⟨rfl, less⟩))
    · intro other otherKnown less
      refine databaseFlaw?_eq_none_iff.mpr fun entry otherDeclared => ?_
      exact earlier other.1 entry.1 entry.2 ⟨other.2, otherKnown, otherDeclared⟩ (.inl less)

/-- What a reader finds in a document is validated, whatever reader it is. -/
theorem validate_of_ofDocument {reader : Reader} {text : String}
    (read : reader.ofDocument text = .ok topology) : topology.validate = .ok () := by
  rw [Reader.ofDocument] at read
  split at read
  · cases read
  · obtain ⟨⟨⟩, valid, same⟩ := (bind_eq_ok_iff _ _ _).mp read
    cases same
    exact valid

/-- What a reader finds in a file is validated, too. -/
theorem validate_of_ofFile {reader : Reader} {path : String} {content : FileContent}
    (read : reader.ofFile path content = .ok topology) : topology.validate = .ok () := by
  rw [Reader.ofFile.eq_def] at read
  split at read
  · cases read
  · split at read
    · cases read
    · exact validate_of_ofDocument ((mapError_eq_ok_iff _ _ _).mp read)

end Topology

end SqlTemplate
