import SqlTemplate.Text.Caseless
import SqlTemplate.Value.Written

/-!
This file defines the list of values that goes with a statement. A value may have a name, and gets an index
when it is added to the list. The indices count from one.
-/

namespace SqlTemplate

/-- A value with an optional name. -/
structure NamedValue where
  name : Option String
  value : Value
  deriving DecidableEq, Repr

/-- A parameter is a named value with the index that it got in its list. -/
structure Parameter extends NamedValue where
  index : Nat
  deriving DecidableEq, Repr

/-- A name matches without regard to the case of Latin letters. -/
def Parameter.hasName (name : String) (parameter : Parameter) : Bool :=
  parameter.name.any fun own => Text.sameName own name

/-- The parameters stand in the order of their placeholders. -/
structure Parameters where
  entries : List Parameter
  deriving DecidableEq, Repr

namespace Parameters

/-- The list without a parameter. -/
def empty : Parameters := ⟨[]⟩

/-- The number of parameters. -/
def size (parameters : Parameters) : Nat := parameters.entries.length

/-- A list is empty when it holds no parameter. -/
def isEmpty (parameters : Parameters) : Bool := parameters.entries.isEmpty

/-- A value is added at the end. Its index is the new size. -/
def push (parameters : Parameters) (name : Option String) (value : Value) : Parameters :=
  ⟨parameters.entries ++ [{ name := name, value := value, index := parameters.size + 1 }]⟩

/-- Values are added one after the other. -/
def pushAll (parameters : Parameters) (given : List NamedValue) : Parameters :=
  given.foldl (fun held added => held.push added.name added.value) parameters

/-- The list that holds these values. -/
def ofList (given : List NamedValue) : Parameters := empty.pushAll given

/-- The values with their names. -/
def contents (parameters : Parameters) : List NamedValue :=
  parameters.entries.map Parameter.toNamedValue

/-- The indices count from one. -/
def Indexed (parameters : Parameters) : Prop :=
  parameters.entries.map Parameter.index = List.range' 1 parameters.size

@[simp] theorem size_push (parameters : Parameters) (name : Option String) (value : Value) :
    (parameters.push name value).size = parameters.size + 1 := by
  simp [push, size]

@[simp] theorem contents_push (parameters : Parameters) (name : Option String) (value : Value) :
    (parameters.push name value).contents = parameters.contents ++ [⟨name, value⟩] := by
  simp [push, contents]

theorem indexed_empty : empty.Indexed := rfl

/-- Whatever is added, the indices go on counting. -/
theorem Indexed.push {parameters : Parameters} (indexed : parameters.Indexed)
    (name : Option String) (value : Value) : (parameters.push name value).Indexed := by
  rw [Indexed, size_push, List.range'_1_concat, Nat.add_comm 1, ← indexed]
  simp [Parameters.push]

theorem Indexed.pushAll {parameters : Parameters} (indexed : parameters.Indexed)
    (given : List NamedValue) : (parameters.pushAll given).Indexed := by
  induction given generalizing parameters with
  | nil => exact indexed
  | cons added rest inductionHypothesis =>
      exact inductionHypothesis (indexed.push added.name added.value)

theorem contents_pushAll (parameters : Parameters) (given : List NamedValue) :
    (parameters.pushAll given).contents = parameters.contents ++ given := by
  induction given generalizing parameters with
  | nil => exact (List.append_nil _).symm
  | cons added rest inductionHypothesis =>
      rw [pushAll, List.foldl_cons, ← pushAll, inductionHypothesis, contents_push,
        List.append_assoc, List.singleton_append]

theorem pushAll_append (parameters : Parameters) (first second : List NamedValue) :
    parameters.pushAll (first ++ second) = (parameters.pushAll first).pushAll second :=
  List.foldl_append

/-- The list of some values holds them with the indices from one on. -/
theorem indexed_ofList (given : List NamedValue) : (ofList given).Indexed :=
  indexed_empty.pushAll given

@[simp] theorem contents_ofList (given : List NamedValue) : (ofList given).contents = given :=
  contents_pushAll empty given

@[simp] theorem length_contents (parameters : Parameters) :
    parameters.contents.length = parameters.size :=
  List.length_map _

/-- The parameter with an index from one on. -/
def get? (parameters : Parameters) : (index : Nat) → Option Parameter
  | 0 => none
  | place + 1 => parameters.entries[place]?

/-- Each parameter beside its index. -/
def numbered (parameters : Parameters) : List (Nat × Parameter) :=
  parameters.entries.map fun parameter => (parameter.index, parameter)

/-- The first parameter with the name, beside its index. -/
def find? (parameters : Parameters) (name : String) : Option (Nat × Parameter) :=
  parameters.numbered.find? fun entry => entry.2.hasName name

/-- The JSON form of one parameter. -/
def entryJson (parameter : Parameter) : String :=
  let name := match parameter.name with
    | some name => Text.jsonLiteral name
    | none => "null"
  "\x7b\"index\":" ++ Text.natural parameter.index ++ ",\"name\":" ++ name ++ ",\"value\":" ++
    parameter.value.json ++ "\x7d"

/-- The JSON form of the list. -/
def json (parameters : Parameters) : String :=
  "[" ++ ",".intercalate (parameters.entries.map entryJson) ++ "]"

end Parameters

end SqlTemplate
