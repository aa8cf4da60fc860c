import SqlTemplate.Toml.Document
import SqlTemplate.Topology.Basic

/-!
This file reads a topology from a TOML document. Keys that a topology does not have are passed over.
Each part may also be written as a list of its fields in their order.
-/

namespace SqlTemplate.Topology

namespace Document

open Toml

/-- The entries of a table. -/
def tableEntries? : Item → Option Entries
  | .table _ entries => some entries
  | _ => none

/-- A text. -/
def text? : Item → Option String
  | .text content => some content
  | _ => none

/-- A modulus is a whole number with 32 bits. -/
def modulus? : Item → Option UInt32
  | .integer (some number) =>
      if 0 ≤ number && number < (UInt32.size : Int) then some (UInt32.ofNat number.toNat)
      else none
  | _ => none

/-- An item without content. -/
def isEmptyItem : Item → Bool
  | .list _ elements => elements.isEmpty
  | .table _ entries => entries.isEmpty
  | _ => false

/-- A dialect is given by its name, or by a table whose only key is that name. -/
def dialect? : Item → Option Dialect
  | .text content => Dialect.ofName? content
  | .table _ [(name, content)] => if isEmptyItem content then Dialect.ofName? name else none
  | _ => none

/-- The items of the fields in their order. A table gives them by their keys, and what it holds
beside them must be readable; a list gives them by their places. -/
def fields? (names : List String) : Item → Option (List (Option Item))
  | .table _ entries =>
      let others := entries.filter fun entry => !names.contains entry.1
      if Item.haveReadableItems others then some (names.map (Item.find? entries))
      else none
  | .list _ elements => some ((List.range names.length).map fun place => elements[place]?)
  | _ => none

/-- A field that may be missing is read when it is there. -/
def optional? {Field : Type} (read : Item → Option Field) (standard : Field) :
    Option Item → Option Field
  | none => some standard
  | some item => read item

/-- A shard rule has a column and a modulus. -/
def rule? (item : Item) : Option ShardRule := do
  match ← fields? ["shard_column", "modulus"] item with
  | [some column, some modulus] => do
      let column ← text? column
      let modulus ← modulus? modulus
      return ⟨column, modulus⟩
  | _ => none

/-- Every entry of a table is read in the same way. -/
def keyed? {Content : Type} (read : Item → Option Content) (item : Item) :
    Option (Keyed Content) := do
  let entries ← tableEntries? item
  let contents ← entries.mapM fun entry => (read entry.2).map fun content => (entry.1, content)
  return Keyed.ofList contents

/-- A database has a dialect, and may have a separator and sharded tables. -/
def database? (item : Item) : Option Database := do
  match ← fields? ["category", "table_shard_separator", "tables"] item with
  | [some category, separator, tables] => do
      let dialect ← dialect? category
      let separator ← optional? text? "_" separator
      let tables ← optional? (keyed? rule?) .empty tables
      return ⟨dialect, separator, tables⟩
  | _ => none

/-- A topology may have databases. -/
def ofEntries? (entries : Entries) : Option Topology := do
  match ← fields? ["databases"] (.table .headed entries) with
  | [databases] => do
      let databases ← optional? (keyed? database?) .empty databases
      return ⟨databases⟩
  | _ => none

end Document

/-- A reader finds the topology that a document describes, if it describes one. -/
abbrev Reader := (document : String) → Option Topology

/-- The reader of TOML documents. -/
def tomlReader : Reader := fun document =>
  (Toml.document? document).bind Document.ofEntries?

/-- A document is read and its topology validated. -/
def Reader.ofDocument (reader : Reader) (document : String) : Except ConfigFault Topology :=
  match reader document with
  | none => .error .malformedDocument
  | some topology => do
      topology.validate
      .ok topology

/-- What stands at the path of a file. -/
inductive FileContent where
  | missing
  | bytes (content : ByteArray)

/-- A file is read as a document. The faults name its path. -/
def Reader.ofFile (reader : Reader) (path : String) : FileContent → Except ConfigFault Topology
  | .missing => .error (.unreadableFile path .missing)
  | .bytes content =>
      match String.fromUTF8? content with
      | none => .error (.unreadableFile path .notUtf8)
      | some document => (reader.ofDocument document).mapError (.refusedFile path)

/-- The topology of a TOML document. -/
def ofDocument (document : String) : Except ConfigFault Topology :=
  tomlReader.ofDocument document

/-- The topology of a TOML file. -/
def ofFile (path : String) (content : FileContent) : Except ConfigFault Topology :=
  tomlReader.ofFile path content

end SqlTemplate.Topology
