import SqlTemplate.Toml.Assembly
import SqlTemplate.Toml.Scalar

/-!
This file reads a whole TOML document.
-/

namespace SqlTemplate.Toml

open Reader

/-- A key is a way through tables to the last name. -/
structure Key where
  path : List String
  name : String
  deriving DecidableEq, Repr

namespace Key

/-- A name without quotes has these letters. -/
def isBare (letter : Char) : Bool :=
  letter.isAlphanum || letter = '_' || letter = '-'

/-- A name with or without quotes. -/
def simple : Reader String := do
  match ← peek? with
  | some '"' => do
      expect ['"']
      Quoted.line '"'
  | some '\'' => do
      expect ['\'']
      Quoted.line '\''
  | _ => do
      let letters ← takeWhile isBare
      if letters.isEmpty then failure else return String.ofList letters

/-- The names of a key stand between points. -/
def reader : Reader Key := do
  let first ← simple
  let later ← repeated do
    skipGap
    if ← accept ['.'] then
      skipGap
      return some (← simple)
    else return none
  let names := first :: later
  match names.getLast? with
  | some name => return ⟨names.dropLast, name⟩
  | none => failure

end Key

/-- The elements up to a closing letter stand between commas, and one more comma may follow the last
element. -/
def elementsUpTo {Element : Type} (closing : Char) (element : Reader Element) : (bound : Nat) →
    Reader (List Element)
  | 0 => failure
  | bound + 1 => do
      skipFiller
      if ← accept [closing] then return []
      else do
        let first ← element
        skipFiller
        if ← accept [','] then
          let later ← elementsUpTo closing element bound
          return first :: later
        else do
          expect [closing]
          return [first]

/-- All elements up to a closing letter. -/
def elements {Element : Type} (closing : Char) (element : Reader Element) :
    Reader (List Element) := do
  let letters ← rest
  elementsUpTo closing element (letters.length + 1)

/-- A key and its item stand at both sides of an equals sign. What may stand around the sign is
skipped. -/
def keyed (skip : Reader Unit) (item : Reader Item) : Reader (Key × Item) := do
  let key ← Key.reader
  skip
  expect ['=']
  skip
  let content ← item
  return (key, content)

/-- The pairs between braces make a closed table. -/
def inlineTable (pairs : List (Key × Item)) : Option Item :=
  let entries := pairs.foldlM (fun entries (pair : Key × Item) =>
    Assembly.insertDotted pair.1.name pair.2 pair.1.path entries) []
  entries.map (.table .inline)

/-- An item whose lists and tables are nested no deeper than the given depth. -/
def item : (depth : Nat) → Reader Item
  | 0 => leaf
  | depth + 1 => do
      if ← accept ['['] then
        return .list false (← elements ']' (item depth))
      else if ← accept ['\x7b'] then
        let pairs ← elements '\x7d' (keyed skipFiller (item depth))
        match inlineTable pairs with
        | some table => return table
        | none => failure
      else leaf
where
  leaf : Reader Item := do
    match ← peek? with
    | some '"' => return .text (← Quoted.text '"')
    | some '\'' => return .text (← Quoted.text '\'')
    | _ => Scalar.item

/-- Lists and tables may be nested to this depth. -/
def depthLimit : Nat := 80

/-- A line of a document gives an item under a key, opens a table, adds a table to a list, or is
empty. -/
inductive Line where
  | pair (key : Key) (content : Item)
  | table (key : Key)
  | element (key : Key)
  | blank

namespace Line

/-- What a line holds before its comment. -/
def content : Reader Line := do
  if ← accept ['[', '['] then
    skipGap
    let key ← Key.reader
    skipGap
    expect [']', ']']
    return .element key
  else if ← accept ['['] then
    skipGap
    let key ← Key.reader
    skipGap
    expect [']']
    return .table key
  else
    match ← peek? with
    | none | some '#' | some '\n' | some '\r' => return .blank
    | _ => do
        let (key, content) ← keyed skipGap (item depthLimit)
        return .pair key content

/-- A line ends where the next one begins, or with the document. -/
def reader : Reader (Option Line) := do
  if (← rest).isEmpty then return none
  skipGap
  let line ← content
  skipGap
  skipComment
  if ← acceptLineEnd then return some line
  else if (← rest).isEmpty then return some line
  else failure

end Line

/-- A document that is still read: its entries, and the path of the table that the next lines are
added to. -/
structure Draft where
  entries : Entries := []
  current : List String := []

namespace Draft

/-- A line is added. -/
def add (draft : Draft) : Line → Option Draft
  | .blank => some draft
  | .pair key content => do
      let entries ← Assembly.changeAt (Assembly.insertDotted key.name content key.path)
        draft.current draft.entries
      return { draft with entries := entries }
  | .table key => do
      let entries ← Assembly.changeAt (Assembly.openTable key.name) key.path draft.entries
      return { entries := entries, current := key.path ++ [key.name] }
  | .element key => do
      let entries ← Assembly.changeAt (Assembly.openElement key.name) key.path draft.entries
      return { entries := entries, current := key.path ++ [key.name] }

end Draft

/-- The mark of the byte order may stand in front of a document. -/
def skipByteOrderMark : List Char → List Char
  | '\uFEFF' :: rest => rest
  | letters => letters

/-- The entries of a document. -/
def document? (text : String) : Option Entries := do
  let lines ← (repeated Line.reader).run? (skipByteOrderMark text.toList)
  let draft ← lines.foldlM Draft.add {}
  return draft.entries

end SqlTemplate.Toml
