import SqlTemplate.Toml.Item

/-!
This file puts the lines of a document together. No key is given twice, and a table is added to only
in the way it was made.
-/

namespace SqlTemplate.Toml.Assembly

/-- The last element of a list is changed. -/
def changeLast {Element : Type} (change : Element → Option Element) :
    List Element → Option (List Element)
  | [] => none
  | [last] => (change last).map fun changed => [changed]
  | first :: second :: rest => (changeLast change (second :: rest)).map (first :: ·)

/-- The entries of an open table, or of the last table of a list of tables, are changed. Anything
else is closed. -/
def changeInside (change : Entries → Option Entries) : Item → Option Item
  | .table .inline _ => none
  | .table origin entries => (change entries).map (.table origin)
  | .list true elements =>
      (changeLast (fun element =>
        match element with
        | .table origin entries => (change entries).map (.table origin)
        | _ => none) elements).map (.list true)
  | _ => none

/-- An item is added under a new key. -/
def addNew (key : String) (item : Item) (entries : Entries) : Option Entries :=
  if (Item.find? entries key).isSome then none else some (Item.put entries key item)

/-- An item is put under a dotted key. A table on the way may not have a header of its own, and the
last one must have been made by a dotted key as well. -/
def insertDotted (key : String) (item : Item) : (path : List String) → Entries → Option Entries
  | [], entries => addNew key item entries
  | step :: path, entries =>
      match Item.find? entries step with
      | none => (insertDotted key item path []).map fun inner =>
          Item.put entries step (.table .dotted inner)
      | some (.table .headed _) => none
      | some found =>
          let mayAdd := match found, path with
            | .table .dotted _, _ => true
            | _, [] => false
            | _, _ => true
          if mayAdd then
            (changeInside (insertDotted key item path) found).map (Item.put entries step)
          else none

/-- The entries of the table at the end of a path are changed. The tables on the way are made when
they are missing. -/
def changeAt (change : Entries → Option Entries) : (path : List String) → Entries → Option Entries
  | [], entries => change entries
  | step :: path, entries =>
      match Item.find? entries step with
      | none => (changeAt change path []).map fun inner =>
          Item.put entries step (.table .implied inner)
      | some found =>
          (changeInside (changeAt change path) found).map (Item.put entries step)

/-- A header opens a table once. A table that was only implied keeps its entries. -/
def openTable (key : String) (entries : Entries) : Option Entries :=
  match Item.find? entries key with
  | none => some (Item.put entries key (.table .headed []))
  | some (.table .implied inner) => some (Item.put entries key (.table .headed inner))
  | some _ => none

/-- A header between double brackets adds a table to a list of tables. -/
def openElement (key : String) (entries : Entries) : Option Entries :=
  match Item.find? entries key with
  | none => some (Item.put entries key (.list true [.table .headed []]))
  | some (.list true elements) =>
      some (Item.put entries key (.list true (elements ++ [.table .headed []])))
  | some _ => none

end SqlTemplate.Toml.Assembly
