import TaskShell.Command.Basic
import TaskShell.Text.Case

/-!
# Vocabulary

The four kinds of records, the verbs, and the words that stand for them.

## Main definitions

* `Entity`, `Verb` — the kinds of records and the verbs.
* `Entity.ofName?`, `Verb.ofName?` — by canonical name.
* `Vocabulary.entity`, `Vocabulary.verb` — the canonical form of a word.
* `Vocabulary.plural` — the plural of a word.
* `Command.normalize` — a command with canonical verb and entity.
-/

set_option autoImplicit false

namespace TaskShell

/-- The kinds of records, outermost first. -/
inductive Entity
  | program
  | project
  | task
  | subtask
  deriving DecidableEq, Repr, Inhabited

/-- What a command can do. -/
inductive Verb
  | list
  | create
  | remove
  | info
  | search
  | update
  | help
  | man
  | use
  deriving DecidableEq, Repr, Inhabited

namespace Entity

/-- All kinds of records. -/
def all : List Entity := [.program, .project, .task, .subtask]

/-- The canonical name. -/
def name : Entity → String
  | .program => "program"
  | .project => "project"
  | .task => "task"
  | .subtask => "subtask"

/-- Kinds with the same name are the same. -/
theorem name_injective {kind kind' : Entity} (h : kind.name = kind'.name) : kind = kind' := by
  revert h
  cases kind <;> cases kind' <;> decide

/-- The kind with a canonical name. -/
def ofName? (s : String) : Option Entity :=
  all.find? fun e => e.name == s

/-- A kind is found by its name. -/
theorem ofName?_name (kind : Entity) : ofName? kind.name = some kind := by
  cases kind <;> decide

/-- The kind of the record that a record of this kind belongs to. -/
def parent? : Entity → Option Entity
  | .program => none
  | .project => some .program
  | .task => some .project
  | .subtask => some .task

end Entity

namespace Verb

/-- All verbs, in the order in which they are listed to the user. -/
def all : List Verb := [.list, .create, .remove, .info, .search, .update, .help, .man, .use]

/-- The canonical name. -/
def name : Verb → String
  | .list => "list"
  | .create => "create"
  | .remove => "remove"
  | .info => "info"
  | .search => "search"
  | .update => "update"
  | .help => "help"
  | .man => "man"
  | .use => "use"

/-- The verb with a canonical name. -/
def ofName? (s : String) : Option Verb :=
  all.find? fun v => v.name == s

/-- A verb is found by its name. -/
theorem ofName?_name (verb : Verb) : ofName? verb.name = some verb := by
  cases verb <;> decide

/-- The word by which a verb is found is its name. -/
theorem name_of_ofName? {s : String} {verb : Verb} (h : ofName? s = some verb) : s = verb.name := by
  have hname := List.find?_some h
  exact (beq_iff_eq.1 hname).symm

end Verb

namespace Vocabulary

/-- Other words for the kinds of records. -/
def entityAliases : Entries Entity :=
  [("prg", .program), ("programs", .program), ("prj", .project), ("projects", .project),
   ("tsk", .task), ("tasks", .task), ("sub", .subtask), ("subtasks", .subtask)]

/-- Other words for the verbs. -/
def verbAliases : Entries Verb :=
  [("ls", .list), ("install", .create), ("add", .create), ("new", .create),
   ("uninstall", .remove), ("delete", .remove), ("del", .remove), ("rm", .remove),
   ("show", .info), ("view", .info), ("display", .info), ("find", .search),
   ("edit", .update), ("cd", .use), ("switch", .use)]

/-- The canonical form of a word for a kind of records; an unknown word in lower case. -/
def entity (word : String) : String :=
  let lowered := Text.lower word
  match entityAliases.value? lowered with
  | some e => e.name
  | none => lowered

/-- The canonical form of a word for a verb; an unknown word in lower case. -/
def verb (word : String) : String :=
  let lowered := Text.lower word
  match verbAliases.value? lowered with
  | some v => v.name
  | none => lowered

/-- The plural of a word. -/
def plural (word : String) : String :=
  word ++ "s"

end Vocabulary

/-- A command with canonical verb and entity. -/
def Command.normalize (c : Command) : Command :=
  { c with verb := c.verb.map Vocabulary.verb, entity := c.entity.map Vocabulary.entity }

end TaskShell
