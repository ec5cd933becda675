import TaskShell.Shell.Creation

/-!
# Single records

`info`, `update` and `remove` act on one record, `use` points the context at one.

## Main definitions

* `Shell.info`, `Shell.update`, `Shell.use` — three of the commands.
* `Shell.remove`, `Removal` — the fourth, which asks before it deletes unless it is forced.
-/

set_option autoImplicit false

namespace TaskShell.Shell

/-- The labels of fields that are not simply capitalised names. -/
def labels : Entries String :=
  [("id", "ID"), ("parentId", "Parent"), ("createdAt", "Created"), ("updatedAt", "Updated")]

/-- The label under which a field is shown. -/
def label (key : String) : String :=
  (labels.value? key).getD (Text.capitalize key)

/-- A field as it is shown. -/
def fieldLine (field : String × Value) : String :=
  "  " ++ label field.1 ++ ": " ++ field.2.shown

/-- The complaint about a record that is not there. -/
def sayNotFound (entity : String) (id : Option String) : Shell Unit :=
  say ("Error: " ++ entity ++ " " ++ (Value.ofText? id).display ++ " not found")

/-! ## Showing a record -/

/-- The fields that are shown in a fixed order: those of the schema, then the two times. -/
def orderedNames (s : Schema) : List String :=
  s.fields.map Field.name ++ ["createdAt", "updatedAt"]

/-- The fields of a record to show: those with a fixed place in their order, then any others as
they come. Empty ones are left out, and the id stands in the heading. -/
def shownFields (s : Schema) (record : Fields) : Fields :=
  let known := (orderedNames s).filterMap fun name =>
    match Entries.value? record name with
    | some value => if value.isHidden then none else some (name, value)
    | none => none
  let extra := record.filter fun (name, value) =>
    !(orderedNames s).contains name && name != "id" && !value.isHidden
  known ++ extra

/-- The `info` command. -/
def info (c : Command) : Shell Unit := do
  let some entity ← requireEntity c "info <entity> <id>" | return
  let id := c.recordId?
  let kind ← repository entity
  match ← findRecord kind id with
  | none => sayNotFound entity id
  | some record =>
    say (Text.capitalize entity ++ " " ++ Fields.display record "id")
    sayAll ((shownFields (← schema entity) record).map fieldLine)

/-! ## Changing a record -/

/-- The id of a record, as it is stored. -/
def idOf (record : Fields) : String :=
  Fields.display record "id"

/-- The usage of `update`. -/
def updateUsage : String := "update <entity> <id> key:value ..."

/-- The `update` command. -/
def update (c : Command) : Shell Unit := do
  let some entity ← requireEntity c updateUsage | return
  let id := c.recordId?
  let s ← schema entity
  warnUnknown s c.flags
  let values := s.collect c.flags
  if values.isEmpty then
    say "Error: Nothing to update"
    say ("Usage: " ++ updateUsage)
  else
    let kind ← repository entity
    match ← findRecord kind id with
    | none => sayNotFound entity id
    | some record =>
      let changes ←
        match s.build values.value? true with
        | .ok changes => pure changes
        | .error e => fail (.schema e)
      updateRecord kind (some (idOf record)) changes
      say ("✓ Updated " ++ entity ++ ": " ++ idOf record)
      sayAll (changes.map fieldLine)
      notify

/-! ## The context -/

/-- A level pointed at a record, or at none, and the levels inside it emptied. -/
def focus (level : Level) (id : Option String) : Shell Unit :=
  modifySession fun s => { s with context := (s.context.set level id).clearDeeper level }

/-- The line that shows a level of the context. -/
def levelLine (context : Context) (level : Level) : String :=
  "  " ++ level.name ++ ": " ++ (Command.nonEmpty? (context.get level)).getD "(none)"

/-- The context written. -/
def showContext : Shell Unit := do
  let context := (← get).session.context
  say "Context:"
  sayAll (Level.all.map (levelLine context))

/-- The `use` command. -/
def use (c : Command) : Shell Unit := do
  match Command.nonEmpty? c.entity with
  | none => showContext
  | some entity =>
    match Level.ofName? entity with
    | none =>
      say ("Error: Cannot use a " ++ entity ++ " as context")
      say ("Context levels: " ++ Text.join ", " (Level.all.map Level.name))
    | some level =>
      match Command.nonEmpty? c.recordId? with
      | none =>
        modifySession fun s => { s with context := s.context.set level none }
        say ("Cleared " ++ entity ++ " context")
      | some id =>
        let kind ← repository entity
        match ← findRecord kind (some id) with
        | none => sayNotFound entity (some id)
        | some record =>
          focus level (some (idOf record))
          say ("Using " ++ entity ++ " " ++ idOf record ++ " \"" ++
            Fields.display record "title" ++ "\"")

end Shell

/-! ## Removing a record -/

/-- A removal that waits to be confirmed. -/
structure Removal where
  entity : String
  record : Fields
  deriving Repr

namespace Removal

open Shell

/-- The record deleted. A level of the context that points at it is emptied, with the levels
inside it. -/
def carryOut (r : Removal) : Shell Unit := do
  let kind ← repository r.entity
  let id := idOf r.record
  deleteRecord kind (some id)
  match Level.ofName? r.entity with
  | some level =>
    let current := ((← get).session.context.get level).getD ""
    if Text.upper current = Text.upper id then focus level none
  | none => pure ()
  say ("✓ Removed " ++ r.entity ++ ": " ++ id)
  notify

/-- The question that asks for confirmation. -/
def question (r : Removal) : Question :=
  { text := "Remove " ++ r.entity ++ " " ++ idOf r.record ++ " \"" ++
      Fields.display r.record "title" ++ "\"? (y/N)" }

/-- A removal after the answer to its question. -/
def resume (r : Removal) (answer : String) : Shell Unit :=
  if ["y", "yes"].contains (Text.lower answer) then r.carryOut else say "Cancelled."

end Removal

namespace Shell

/-- The `remove` command. -/
def remove (c : Command) : Shell (Progress Removal) := do
  let some entity ← requireEntity c "remove <entity> <id> [--force]" | return .finished
  let id := c.recordId?
  let kind ← repository entity
  match ← findRecord kind id with
  | none =>
    sayNotFound entity id
    return .finished
  | some record =>
    let removal : Removal := ⟨entity, record⟩
    if (c.flag? ["force", "yes"]).isSome then
      removal.carryOut
      return .finished
    else return .asks removal.question removal

end Shell

end TaskShell
