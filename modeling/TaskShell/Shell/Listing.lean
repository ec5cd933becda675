import TaskShell.Filter
import TaskShell.Shell.World

/-!
# Listing and searching

`list ENTITY` and `search ENTITY "TEXT"`, with filters.

## Main definitions

* `Shell.requireEntity` — the kind of records that a command names.
* `Shell.list`, `Shell.search` — the two commands.
-/

set_option autoImplicit false

namespace TaskShell.Shell

/-- The kind of records that a command names, if it names one; otherwise the user is told how the
command is used. -/
def requireEntity (c : Command) (usage : String) : Shell (Option String) := do
  match Command.nonEmpty? c.entity with
  | some entity => return some entity
  | none =>
    say "Error: No entity specified"
    say ("Usage: " ++ usage)
    return none

/-- The filter that a command asks for. -/
def filterOf (c : Command) : Shell Filter :=
  match Filter.ofCommand c with
  | .ok f => pure f
  | .error raw => fail (.limit raw)

/-- The plural of a kind of records as a heading begins with it. -/
def headingName (entity : String) : String :=
  Text.capitalize (Vocabulary.plural entity)

/-- Records written under a heading. -/
def render (entity heading : String) (records : List Fields) : Shell Unit := do
  say heading
  if records.isEmpty then say ("  No " ++ Vocabulary.plural entity ++ " found.")
  else sayAll (records.map Fields.line)

/-- The records of a kind that a filter lets through, among those that `keep` keeps. -/
def select (entity : String) (filter : Filter) (keep : Fields → Bool) : Shell (List Fields) := do
  let kind ← repository entity
  let records ← listRecords kind
  return filter.apply (records.filter keep)

/-- The `list` command. -/
def list (c : Command) : Shell Unit := do
  let some entity ← requireEntity c "list <entity> (programs/projects/tasks/subtasks)" | return
  let filter ← filterOf c
  let records ← select entity filter fun _ => true
  modifySession fun s => s.setFilter (some filter.fields)
  render entity (headingName entity ++ " (" ++ toString records.length ++ "):") records

/-- The text that a command searches for. -/
def queryOf (c : Command) : String :=
  Text.trim (((Command.nonEmpty? c.target).or (c.flags.value? "query")).getD "")

/-- The usage of `search`. -/
def searchUsage : String := "search <entity> \"query\""

/-- The `search` command. -/
def search (c : Command) : Shell Unit := do
  let some entity ← requireEntity c searchUsage | return
  let query := queryOf c
  if query = "" then
    say "Error: No search query given"
    say ("Usage: " ++ searchUsage)
  else
    let filter ← filterOf c
    let records ← select entity filter fun record => Filter.contains record query
    modifySession fun s => s.setFilter (some (filter.fields ++ [("query", .text query)]))
    render entity
      (headingName entity ++ " matching \"" ++ query ++ "\" (" ++ toString records.length ++ "):")
      records

end TaskShell.Shell
