import SqlTemplate.Context
import SqlTemplate.Statement.Template
import SqlTemplate.Text.Numeral

/-!
This file writes the tokens of a statement one after the other. One space stands between two tokens, but none
beside a bracket and none before a comma.
-/

namespace SqlTemplate.Statement

/-- All templates of a statement share one numbering of their placeholders. It may be that they are not
numbered at all. -/
structure Numbering where
  isNumbered : Bool
  next : Nat := 1
  deriving DecidableEq, Repr

namespace Numbering

/-- A statement begins with this numbering. -/
def start (dialect : Dialect) : Numbering where
  isNumbered := dialect.style.numbersPlaceholders

/-- Each placeholder becomes a dollar sign and the next number. -/
def rewrite : (next : Nat) → List Char → List Char × Nat
  | next, [] => ([], next)
  | next, letter :: rest =>
      if letter = Template.placeholder then
        let (later, after) := rewrite (next + 1) rest
        ('$' :: Text.naturalLetters next ++ later, after)
      else
        let (later, after) := rewrite next rest
        (letter :: later, after)

/-- A template is written, and the numbering goes on behind it. -/
def apply (numbering : Numbering) (template : String) : String × Numbering :=
  if !numbering.isNumbered || !template.toList.contains Template.placeholder then
    (template, numbering)
  else
    let (letters, after) := rewrite numbering.next template.toList
    (String.ofList letters, { numbering with next := after })

end Numbering

/-- An alias follows what it stands for. -/
def withAlias (written : String) : Option String → String
  | some otherName => written ++ " AS " ++ otherName
  | none => written

/-- The name of the table is followed by its alias and, when it is only read, by the hint of the
dialect. -/
def writeTable (dialect : Dialect) (table : TableRef) (physicalName : String) : String :=
  let named := withAlias (dialect.style.quote physicalName) table.shownAs
  let hint := dialect.style.readHint
  if table.isRead && !hint.isEmpty then named ++ " " ++ hint else named

/-- The template of a column is written, and the quoted column is put into its only slot then. -/
def writeColumnTemplate (dialect : Dialect) (numbering : Numbering) (template column : String) :
    Except StateFault (String × Numbering) :=
  let slots := Template.slots template.toList
  if slots ≠ 1 then .error (.columnSlots template slots)
  else
    let (written, after) := numbering.apply template
    let filled := Template.fillFirst (dialect.style.quote column).toList written.toList
    .ok (String.ofList filled, after)

/-- One token is written, and the numbering goes on behind it. -/
def writeToken (context : Context) (parameters : Parameters) (numbering : Numbering) :
    Token → Except Fault (String × Numbering)
  | .text content => .ok (numbering.apply content)
  | .keyword word => .ok (word.word, numbering)
  | .operator connective => .ok (connective.word, numbering)
  | .bracket half => .ok (half.sign, numbering)
  | .column reference =>
      .ok (withAlias (context.dialect.style.quote reference.name) reference.shownAs, numbering)
  | .table reference => do
      let physicalName ← context.physicalName parameters reference
      .ok (writeTable context.dialect reference physicalName, numbering)
  | .expression body => .ok (numbering.apply body.template)
  | .columnExpression columnName body =>
      (writeColumnTemplate context.dialect numbering body.template columnName).mapError .state
  | .omitted => .ok ("", numbering)

/-- What is written behind a token, when the next one is known. -/
def separator (token : Token) (next? : Option Token) : String :=
  if token.isBracket || next?.any fun next => next.isBracket || next.isComma then "" else " "

/-- The tokens are written behind what is written already, each with its separator. -/
def writeFrom (context : Context) (parameters : Parameters) (numbering : Numbering)
    (written : String) : List Token → Except Fault String
  | [] => .ok written
  | token :: rest => do
      let (fragment, after) ← writeToken context parameters numbering token
      writeFrom context parameters after (written ++ fragment ++ separator token rest.head?) rest

/-- Other tokens in the same places are written alike when each of them is. -/
theorem writeFrom_map {context : Context} {parameters : Parameters} {change : Token → Token}
    (sameToken : ∀ numbering token, writeToken context parameters numbering (change token) =
      writeToken context parameters numbering token)
    (sameBracket : ∀ token, (change token).isBracket = token.isBracket)
    (sameComma : ∀ token, (change token).isComma = token.isComma) (numbering : Numbering)
    (written : String) (tokens : List Token) :
    writeFrom context parameters numbering written (tokens.map change) =
      writeFrom context parameters numbering written tokens := by
  have sameSeparator (token : Token) (next? : Option Token) :
      separator (change token) (next?.map change) = separator token next? := by
    cases next? <;> simp [separator, sameBracket, sameComma]
  induction tokens generalizing numbering written with
  | nil => rfl
  | cons token rest inductionHypothesis =>
      rw [List.map_cons, writeFrom, writeFrom, sameToken, List.head?_map, sameSeparator]
      simp only [inductionHypothesis]

end SqlTemplate.Statement
