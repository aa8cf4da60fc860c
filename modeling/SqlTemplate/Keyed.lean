/-!
This file defines a table of items under distinct keys. The entries are kept in the order of their
keys, which is the order of the code points and also the order of the UTF-8 bytes.
-/

namespace SqlTemplate

/-- The entries stand in strictly increasing order of their keys. -/
structure Keyed (Item : Type) where
  entries : List (String × Item)
  sorted : entries.Pairwise fun earlier later => earlier.1 < later.1

namespace Keyed

variable {Item : Type}

/-- The table without an entry. -/
def empty : Keyed Item := ⟨[], List.Pairwise.nil⟩

instance : Inhabited (Keyed Item) := ⟨empty⟩

/-- The entry is put at its place and replaces an entry with the same key. -/
def insertEntry (key : String) (item : Item) : List (String × Item) → List (String × Item)
  | [] => [(key, item)]
  | entry :: rest =>
      if key < entry.1 then (key, item) :: entry :: rest
      else if entry.1 = key then (key, item) :: rest
      else entry :: insertEntry key item rest

theorem mem_insertEntry {key : String} {item : Item} {entries : List (String × Item)}
    {entry : String × Item} (member : entry ∈ insertEntry key item entries) :
    entry = (key, item) ∨ entry ∈ entries := by
  induction entries with
  | nil => exact .inl (by simpa [insertEntry] using member)
  | cons first rest inductionHypothesis =>
      rw [insertEntry] at member
      split at member
      · simpa using member
      · split at member
        · rcases List.mem_cons.mp member with isNew | isOld
          · exact .inl isNew
          · exact .inr (List.mem_cons_of_mem _ isOld)
        · rcases List.mem_cons.mp member with isFirst | isLater
          · exact .inr (by simp [isFirst])
          · rcases inductionHypothesis isLater with isNew | isOld
            · exact .inl isNew
            · exact .inr (List.mem_cons_of_mem _ isOld)

theorem sorted_insertEntry (key : String) (item : Item) {entries : List (String × Item)}
    (sorted : entries.Pairwise fun earlier later => earlier.1 < later.1) :
    (insertEntry key item entries).Pairwise fun earlier later => earlier.1 < later.1 := by
  induction entries with
  | nil => simp [insertEntry]
  | cons first rest inductionHypothesis =>
      have firstBelow := (List.pairwise_cons.mp sorted).1
      have restSorted := (List.pairwise_cons.mp sorted).2
      rw [insertEntry]
      split
      · rename_i keyBelow
        refine List.pairwise_cons.mpr ⟨?_, sorted⟩
        intro entry member
        rcases List.mem_cons.mp member with isFirst | isLater
        · simpa [isFirst] using keyBelow
        · exact String.lt_trans keyBelow (firstBelow entry isLater)
      · split
        · rename_i sameKey
          refine List.pairwise_cons.mpr ⟨?_, restSorted⟩
          intro entry member
          simpa [← sameKey] using firstBelow entry member
        · rename_i notBelow otherKey
          refine List.pairwise_cons.mpr ⟨?_, inductionHypothesis restSorted⟩
          intro entry member
          rcases mem_insertEntry member with isNew | isOld
          · subst isNew
            rcases Std.lt_trichotomy first.1 key with below | equal | above
            · exact below
            · exact absurd equal otherKey
            · exact absurd above notBelow
          · exact firstBelow entry isOld

/-- The table holds the item under the key, and all other entries as before. -/
def insert (table : Keyed Item) (key : String) (item : Item) : Keyed Item :=
  ⟨insertEntry key item table.entries, sorted_insertEntry key item table.sorted⟩

/-- The item under the key. -/
def get? (table : Keyed Item) (key : String) : Option Item :=
  (table.entries.find? fun entry => entry.1 == key).map Prod.snd

/-- The first entry in key order whose key fits. -/
def findKey? (table : Keyed Item) (fits : String → Bool) : Option Item :=
  (table.entries.find? fun entry => fits entry.1).map Prod.snd

theorem get?_insert_self (table : Keyed Item) (key : String) (item : Item) :
    (table.insert key item).get? key = some item := by
  have found : ∀ entries : List (String × Item),
      (insertEntry key item entries).find? (fun entry => entry.1 == key) = some (key, item) := by
    intro entries
    induction entries with
    | nil => simp [insertEntry]
    | cons first rest inductionHypothesis =>
        rw [insertEntry]
        split
        · simp
        · split
          · simp
          · rename_i otherKey
            simp [otherKey, inductionHypothesis]
  simp [get?, insert, found]

theorem get?_insert_of_ne (table : Keyed Item) {key other : String} (item : Item)
    (distinct : other ≠ key) : (table.insert key item).get? other = table.get? other := by
  have unchanged : ∀ entries : List (String × Item),
      (insertEntry key item entries).find? (fun entry => entry.1 == other) =
        entries.find? (fun entry => entry.1 == other) := by
    intro entries
    induction entries with
    | nil => simp [insertEntry, distinct.symm]
    | cons first rest inductionHypothesis =>
        rw [insertEntry]
        split
        · simp [distinct.symm, List.find?_cons]
        · split
          · rename_i sameKey
            have notOther : ¬first.1 = other := fun equal => distinct (equal ▸ sameKey)
            simp [distinct.symm, notOther]
          · simp only [List.find?_cons, inductionHypothesis]
  simp [get?, insert, unchanged]

/-- Entries are inserted from the first to the last, so the last one under a key stays. -/
def ofList (entries : List (String × Item)) : Keyed Item :=
  entries.foldl (fun table entry => table.insert entry.1 entry.2) empty

end Keyed

end SqlTemplate
