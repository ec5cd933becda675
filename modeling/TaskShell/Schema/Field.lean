import TaskShell.Choice
import TaskShell.Number.Reader
import TaskShell.Text.Literal
import TaskShell.Value.Basic

/-!
# Fields

A field of a record: how it is named and asked for, and how its value is read from text.

## Main definitions

* `Field` — name, label, kind of value, aliases.
* `Field.question` — the question that asks for the field.
* `Field.problem?` — why a text is no value of the field.
* `Field.convert` — the value that a text denotes.
-/

set_option autoImplicit false

namespace TaskShell

/-- What a field holds: free text, one of some words, a list of texts, or a number. -/
inductive FieldKind
  | text
  | choice (words : List String)
  | list
  | number
  deriving DecidableEq, Repr, Inhabited

/-- A field of a record. A `guided` field is asked for when a record is created step by step. -/
structure Field where
  name : String
  label : String
  kind : FieldKind := .text
  aliases : List String := []
  guided : Bool := false
  deriving DecidableEq, Repr, Inhabited

namespace Field

/-- Whether a flag key names the field. -/
def answers (f : Field) (key : String) : Bool :=
  key == f.name || f.aliases.contains key

/-- The question that asks for the field; it lists the words to choose from. -/
def question (f : Field) : String :=
  match f.kind with
  | .choice (word :: words) => f.label ++ " (" ++ Text.join "/" (word :: words) ++ ")"
  | _ => f.label

/-- Why a text is no value of a field. -/
inductive Problem
  | choice (rejection : Choice.Rejection)
  | notNumber (name raw : String)
  deriving DecidableEq, Repr

/-- What the user is told. -/
def Problem.message : Problem → String
  | .choice rejection => rejection.message
  | .notNumber name raw => "Invalid " ++ name ++ ": \"" ++ raw ++ "\". Expected a number"

/-- Why a text is no value of the field. The empty text is no value, and no problem. -/
def problem? (f : Field) (raw : String) : Option Problem :=
  if raw = "" then none
  else
    match f.kind with
    | .choice words => (Choice.rejection? f.name raw words).map .choice
    | .number =>
      match Number.readFloat? raw with
      | some x => if x.isFinite then none else some (.notNumber f.name raw)
      | none => some (.notNumber f.name raw)
    | _ => none

/-- The items of a text with commas: trimmed, and none of them empty. -/
def items (raw : String) : List String :=
  ((Text.cut ',' raw).map Text.trim).filter (· != "")

/-- A text that is no number. -/
structure Unreadable where
  raw : String
  deriving DecidableEq, Repr

/-- The words for a text that is no number. -/
def Unreadable.message (e : Unreadable) : String :=
  "could not convert string to float: " ++ Text.literal e.raw

/-- The value that a text denotes. -/
def convert (f : Field) (raw : String) : Except Unreadable Value :=
  match f.kind with
  | .text => .ok (.text raw)
  | .choice _ => .ok (.text (Text.lower raw))
  | .list => .ok (.list ((items raw).map .text))
  | .number =>
    match Number.readFloat? raw with
    | some x => .ok (.float x)
    | none => .error ⟨raw⟩

end Field

end TaskShell
