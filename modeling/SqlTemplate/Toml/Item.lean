/-!
This file defines what a TOML document holds. A table remembers how it came to be, because that
decides whether later lines may still add to it.
-/

namespace SqlTemplate.Toml

/-- A table is named on the way to another one, made by a dotted key, opened by a header of its own,
or written between braces. -/
inductive Origin where
  | implied
  | dotted
  | headed
  | inline
  deriving DecidableEq, Repr

/-- An item of a document. A whole number whose digits are not all of its base has no value, which
matters only to a reader of that number. Of a decimal number only its finiteness counts, and of a date
or time only its presence. -/
inductive Item where
  | text (content : String)
  | integer (number : Option Int)
  | decimal (isFinite : Bool)
  | boolean (truth : Bool)
  | moment
  | list (ofTables : Bool) (elements : List Item)
  | table (origin : Origin) (entries : List (String × Item))

/-- The entries of a table in the order of their lines. -/
abbrev Entries := List (String × Item)

namespace Item

mutual

/-- Numbers that are passed over must still have a value: a whole number needs at most 128 bits, and
a decimal number must be finite. -/
def isReadable : Item → Bool
  | .integer number => number.any fun value =>
      -Int.ofNat (Nat.pow 2 127) ≤ value && value < Int.ofNat (Nat.pow 2 128)
  | .decimal isFinite => isFinite
  | .list _ elements => areReadable elements
  | .table _ entries => haveReadableItems entries
  | .text _ | .boolean _ | .moment => true

/-- All elements of a list are readable. -/
def areReadable : List Item → Bool
  | [] => true
  | element :: rest => element.isReadable && areReadable rest

/-- All items of a table are readable. -/
def haveReadableItems : Entries → Bool
  | [] => true
  | (_, item) :: rest => item.isReadable && haveReadableItems rest

end

/-- The item under a key. -/
def find? (entries : Entries) (key : String) : Option Item :=
  (entries.find? fun entry => entry.1 == key).map Prod.snd

/-- The item under a key is replaced or added. -/
def put (entries : Entries) (key : String) (item : Item) : Entries :=
  if entries.any fun entry => entry.1 == key then
    entries.map fun entry => if entry.1 == key then (key, item) else entry
  else entries ++ [(key, item)]

end Item

end SqlTemplate.Toml
