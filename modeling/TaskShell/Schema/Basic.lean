import TaskShell.Schema.Field
import TaskShell.Vocabulary

/-!
# Schemas

The fields of each kind of records, in the order in which records show them.

## Main definitions

* `Schema` — a kind of records and its fields.
* `Schema.ofEntity` — the schema of each kind.
* `Schema.field?` — the field that a flag key names.
* `Schema.unknownFlags` — the flags that neither name a field nor steer a command.
* `Schema.collect` — the field values among flags.
-/

set_option autoImplicit false

namespace TaskShell

/-- The fields of a kind of records. -/
structure Schema where
  entity : Entity
  fields : List Field
  deriving DecidableEq, Repr, Inhabited

namespace Schema

/-- The flags that steer a command rather than describe a record. -/
def controlFlags : List String := ["guided", "force", "yes", "id", "limit", "all"]

/-- The title, which every record has. -/
def title : Field := { name := "title", label := "Title*" }

/-- The record that a record belongs to. -/
def parentId : Field := { name := "parentId", label := "Parent ID*", aliases := ["parent"] }

/-- Free notes. -/
def notes : Field := { name := "notes", label := "Notes" }

/-- Tags. -/
def tags : Field := { name := "tags", label := "Tags (comma-separated)", kind := .list }

/-- What is to be reached. -/
def objective : Field := { name := "objective", label := "Objective" }

/-- What is needed. -/
def resources : Field :=
  { name := "resources", label := "Resources (comma-separated)", kind := .list }

/-- The records that come first. -/
def dependencies : Field :=
  { name := "dependencies", label := "Dependencies (comma-separated IDs)", kind := .list }

/-- How far the work is, in percent. -/
def progress : Field := { name := "progress", label := "Progress (0-100)", kind := .number }

/-- The fields that are asked for when a record is created step by step. -/
def guided (statuses : List String) : List Field :=
  [{ name := "description", label := "Description", aliases := ["desc"], guided := true },
   { name := "priority", label := "Priority", kind := .choice Choice.priorities, guided := true },
   { name := "status", label := "Status", kind := .choice statuses, guided := true }]

/-- The schema of a kind of records. -/
def ofEntity : Entity → Schema
  | .program => ⟨.program,
      [title] ++ guided Choice.statuses ++
        [{ name := "category", label := "Category" }, objective, notes, tags, resources, progress]⟩
  | .project => ⟨.project,
      [title, parentId] ++ guided Choice.statuses ++
        [{ name := "phase", label := "Phase" }, objective, notes, tags, resources, dependencies,
          progress]⟩
  | .task => ⟨.task,
      [title, parentId] ++ guided Choice.statuses ++
        [notes, tags, dependencies,
          { name := "subtasks", label := "Subtasks (comma-separated IDs)", kind := .list }]⟩
  | .subtask => ⟨.subtask,
      [title, parentId] ++ guided Choice.subtaskStatuses ++ [notes, tags]⟩

/-- Whether records must name a parent. -/
def requiresParent (s : Schema) : Bool :=
  s.entity.parent?.isSome

/-- The field that a flag key names. -/
def field? (s : Schema) (key : String) : Option Field :=
  s.fields.find? fun f => f.answers key

/-- The fields that are asked for when a record is created step by step. -/
def guidedFields (s : Schema) : List Field :=
  s.fields.filter Field.guided

/-- Whether a flag key neither steers a command nor names a field. -/
def isUnknown (s : Schema) (key : String) : Bool :=
  !controlFlags.contains key && (s.field? key).isNone

/-- The flags that neither name a field nor steer a command, in alphabetical order. -/
def unknownFlags (s : Schema) (flags : Entries String) : List String :=
  (flags.keys.filter s.isUnknown).mergeSort fun a b => !(b < a)

/-- One flag taken into the field values: an empty value is passed over, and a canonical name wins
over an alias. -/
def collectFlag (s : Schema) (values : Entries String) (flag : String × String) :
    Entries String :=
  match s.field? flag.1 with
  | none => values
  | some f =>
    if flag.2 = "" then values
    else if (values.value? f.name).isSome && flag.1 != f.name then values
    else values.put f.name flag.2

/-- The field values among flags, by canonical name. -/
def collect (s : Schema) (flags : Entries String) : Entries String :=
  flags.foldl s.collectFlag []

end Schema

end TaskShell
