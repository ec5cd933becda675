import TaskShell.Prompt.Basic
import TaskShell.Shell.Listing

/-!
# Creating records

`create ENTITY "TITLE"` builds a record from its flags if the title, and the parent where one is
needed, are known; otherwise, or with `--guided`, it asks for what is missing, one question a
line. Nothing is stored before the last question is answered.

## Main definitions

* `Creation`, `Creation.Stage` — a record in the making, and the question it waits for.
* `Creation.store` — the record built and stored.
* `Creation.begin`, `Creation.resume` — the questions up to the next one that is open.
* `Shell.quickCreate`, `Shell.guidedCreate`, `Shell.create` — the two ways, and the command.
-/

set_option autoImplicit false

namespace TaskShell

/-- Where a creation stands: which question is open. -/
inductive Creation.Stage
  | title
  | parent (default : Option String)
  | field (field : Field) (rest : List Field)
  deriving DecidableEq, Repr

/-- A record in the making: its kind, the field values so far, and the open question. -/
structure Creation where
  kind : Entity
  values : Entries String
  stage : Creation.Stage
  deriving DecidableEq, Repr

/-- Whether a field has a value that is not empty. -/
def Entries.isFilled (values : Entries String) (name : String) : Bool :=
  Command.given (values.value? name)

namespace Creation

open Shell

/-- The schema of a kind of records. -/
abbrev schemaOf (kind : Entity) : Schema :=
  Schema.ofEntity kind

/-- The record built from its field values and stored. -/
def store (kind : Entity) (values : Entries String) : Shell Unit := do
  let record ←
    match (schemaOf kind).build values.value? with
    | .ok record => pure record
    | .error e => fail (.schema e)
  let kind ← repository kind.name
  let id ← createRecord kind record
  say ("✓ Created " ++ kind.name ++ ": " ++ id)
  say ("  Title: " ++ Fields.display record "title")
  match Entries.value? record "parentId" with
  | some parent => if parent.isGiven then say ("  Parent: " ++ parent.display)
  | none => pure ()
  notify

/-- The next of some fields that has no value is asked for; with none left the record is
stored. -/
def askFields (kind : Entity) (values : Entries String) : List Field → Shell (Progress Creation)
  | [] => do
    store kind values
    return .finished
  | f :: fs =>
    if values.isFilled f.name then askFields kind values fs
    else return .asks { text := f.question } ⟨kind, values, .field f fs⟩

/-- The parent is asked for, if one is needed and none is known, and then the other fields. -/
def askParent (kind : Entity) (values : Entries String) : Shell (Progress Creation) := do
  if (schemaOf kind).requiresParent && !values.isFilled "parentId" then
    match Command.nonEmpty? ((← get).session.defaultParent? kind) with
    | some parent =>
      return .asks { text := "Parent ID* (default: " ++ parent ++ ")" }
        ⟨kind, values, .parent (some parent)⟩
    | none => return .asks { text := "Parent ID*", required := true } ⟨kind, values, .parent none⟩
  else askFields kind values (schemaOf kind).guidedFields

/-- The title is asked for, if it is not known, and then the rest. -/
def begin (kind : Entity) (values : Entries String) : Shell (Progress Creation) :=
  if values.isFilled "title" then askParent kind values
  else return .asks { text := "Title*", required := true } ⟨kind, values, .title⟩

/-- A creation after the answer to its open question. A blank answer for the parent takes the
default; a field whose answer does not fit is asked for again. -/
def resume (c : Creation) (answer : String) : Shell (Progress Creation) :=
  match c.stage with
  | .title => askParent c.kind (c.values.put "title" answer)
  | .parent default =>
    let parent := if answer = "" then default.getD "" else answer
    askFields c.kind (c.values.put "parentId" parent) (schemaOf c.kind).guidedFields
  | .field f fs =>
    match f.problem? answer with
    | some problem => do
      say problem.message
      return .asks { text := f.question } c
    | none =>
      askFields c.kind (if answer = "" then c.values else c.values.put f.name answer) fs

end Creation

namespace Shell

/-- Flags that name no field are mentioned. -/
def warnUnknown (s : Schema) (flags : Entries String) : Shell Unit :=
  match s.unknownFlags flags with
  | [] => pure ()
  | unknown => say ("Warning: ignoring unknown field(s): " ++ Text.join ", " unknown)

/-- The words that switch a flag off. -/
def offWords : List String := ["false", "0", "no"]

/-- Whether a command asks for a guided creation. -/
def asksGuidance (c : Command) : Bool :=
  match c.flags.value? "guided" with
  | some value => !offWords.contains (Text.lower value)
  | none => false

/-- The field values that a command gives: its flags, and its target as the title if no flag gives
one. -/
def valuesOf (s : Schema) (c : Command) : Entries String :=
  let values := s.collect c.flags
  if values.isFilled "title" then values
  else
    match Command.nonEmpty? c.target with
    | some title => values.put "title" title
    | none => values

/-- A record stored straight away; a missing parent is taken from the context. -/
def quickCreate (kind : Entity) (values : Entries String) : Shell Unit := do
  let parent := (← get).session.defaultParent? kind
  let values :=
    if (Schema.ofEntity kind).requiresParent && !values.isFilled "parentId" then
      match parent with
      | some id => values.put "parentId" id
      | none => values
    else values
  Creation.store kind values

/-- A record created step by step: the first question that is open is asked. -/
def guidedCreate (kind : Entity) (values : Entries String) : Shell (Progress Creation) := do
  say ("Creating new " ++ kind.name ++ "...")
  say "(Press Enter to skip optional fields)"
  Creation.begin kind values

/-- The `create` command. -/
def create (c : Command) : Shell (Progress Creation) := do
  let some entity ← requireEntity c "create <entity> \"title\" [flags]" | return .finished
  let s ← schema entity
  warnUnknown s c.flags
  let values := valuesOf s c
  let parent := (← get).session.defaultParent? s.entity
  let hasParent := values.isFilled "parentId" || Command.given parent
  if values.isFilled "title" && (!s.requiresParent || hasParent) && !asksGuidance c then
    quickCreate s.entity values
    return .finished
  else guidedCreate s.entity values

end Shell

end TaskShell
