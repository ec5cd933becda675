import TaskShell.Vocabulary

/-!
# The manual

What `help` and `man` print.

## Main definitions

* `Manual.quickReference` — the lines of `help`.
* `Manual.full` — the lines of `man`.
* `Manual.page` — the lines of `man TOPIC`.
-/

set_option autoImplicit false

namespace TaskShell.Manual

/-- The quick reference. -/
def quickReference : List String :=
  ["",
   "SYNTAX:",
   "  <verb> <entity> [target] [flags]",
   "",
   "QUICK SHORTCUTS:",
   "  prg              → list programs",
   "  prj              → list projects",
   "  tsk              → list tasks",
   "  sub              → list subtasks",
   "",
   "VERBS:",
   "  list             List all items",
   "  create           Create new item",
   "  info             Show item details",
   "  update           Update an item",
   "  remove           Delete an item",
   "  search           Search for items",
   "  use              Set the default parent context",
   "",
   "ENTITIES:",
   "  program (prg)    Top-level container",
   "  project (prj)    Belongs to a program",
   "  task (tsk)       Belongs to a project",
   "  subtask (sub)    Belongs to a task",
   "",
   "EXAMPLES:",
   "  list programs",
   "  create task \"Fix bug\" parent:XYZ789 priority:high",
   "  create program --guided",
   "  info task XYZ789",
   "  remove task XYZ789",
   "",
   "MORE INFO:",
   "  man              Full manual (like man pages)",
   "  man list         Help for specific command",
   "  history          Commands entered this session",
   ""]

/-- The full manual. -/
def full : List String :=
  ["",
   "UNFOLD(1)                  User Commands                  UNFOLD(1)",
   "",
   "NAME",
   "       unfold - Command-line interface for time management",
   "",
   "SYNOPSIS",
   "       <verb> <entity> [target] [options]",
   "",
   "VERBS",
   "       list       List all items of a given entity type.",
   "                  Aliases: ls",
   "       create     Create a new item. Missing fields are asked for.",
   "                  Aliases: install, add, new",
   "       info       Display detailed information about an item.",
   "                  Aliases: show, view, display",
   "       remove     Delete an item (asks for confirmation).",
   "                  Aliases: delete, rm, del, uninstall",
   "       update     Modify properties of an existing item.",
   "                  Aliases: edit",
   "       search     Search titles and descriptions.",
   "                  Aliases: find",
   "       use        Remember a program/project/task as default parent.",
   "                  Aliases: cd, switch",
   "",
   "ENTITIES",
   "       program (prg, programs)   Top unit. No parent.",
   "       project (prj, projects)   Parent: program ID.",
   "       task (tsk, tasks)         Parent: project ID.",
   "       subtask (sub, subtasks)   Parent: task ID.",
   "",
   "OPTIONS",
   "       Key-value style: priority:high",
   "       Flag style:      --priority=high",
   "",
   "       title:\"text\"       Item title (required for create)",
   "       parent:id          Parent ID (required for project/task/subtask)",
   "       priority:level     low, medium, high, critical",
   "       status:state       planned, active, paused, due, completed",
   "       desc:\"text\"        Description",
   "       tags:\"a,b\"         Comma-separated tags",
   "       --guided           Ask for each field interactively",
   "       --force            Remove without confirmation",
   "       --limit=N          Show at most N items (list, search)",
   "",
   "SHORTCUTS",
   "       prg / prj / tsk / sub      list programs / projects / tasks / subtasks",
   "       done task <id>             Mark task as completed",
   "       start task <id>            Mark task as active",
   "",
   "HIERARCHY",
   "       Program",
   "         └── Project",
   "              └── Task",
   "                   └── Subtask",
   "",
   "SEE ALSO",
   "       help       Quick reference guide",
   ""]

/-- Listing records. -/
def listPage : List String :=
  ["",
   "list - List all items of an entity type",
   "",
   "USAGE:",
   "  list <entity> [parent:id] [status:state] [priority:level] [--limit=N]",
   "",
   "EXAMPLES:",
   "  list programs",
   "  list tasks status:active",
   "  tsk              (shortcut)",
   ""]

/-- Creating a record. -/
def createPage : List String :=
  ["",
   "create - Create a new item",
   "",
   "USAGE:",
   "  create <entity> \"title\" [options]",
   "",
   "ALIASES:",
   "  install, add, new",
   "",
   "OPTIONS:",
   "  parent:id        Parent item ID (required for project/task/subtask)",
   "  priority:level   Priority (low/medium/high/critical)",
   "  status:state     Status (planned/active/paused/due/completed)",
   "  desc:\"text\"      Description",
   "  --guided         Ask for fields one at a time",
   "",
   "EXAMPLES:",
   "  create program \"Work\"",
   "  create project \"Website\" parent:ABC123",
   "  create task \"Fix bug\" parent:XYZ789 priority:high",
   ""]

/-- Showing one record. -/
def infoPage : List String :=
  ["",
   "info - Show detailed information about an item",
   "",
   "USAGE:",
   "  info <entity> <id>",
   "",
   "ALIASES:",
   "  show, view, display",
   ""]

/-- Deleting a record. -/
def removePage : List String :=
  ["",
   "remove - Delete an item",
   "",
   "USAGE:",
   "  remove <entity> <id> [--force]",
   "",
   "ALIASES:",
   "  delete, rm, del, uninstall",
   ""]

/-- Changing a record. -/
def updatePage : List String :=
  ["",
   "update - Modify an existing item",
   "",
   "USAGE:",
   "  update <entity> <id> [options]",
   "",
   "ALIASES:",
   "  edit",
   "",
   "SHORTCUTS:",
   "  done task <id>   Mark as completed",
   "  start task <id>  Mark as active",
   ""]

/-- Finding records. -/
def searchPage : List String :=
  ["",
   "search - Find items matching a query",
   "",
   "USAGE:",
   "  search <entity> \"query\"",
   "",
   "ALIASES:",
   "  find",
   ""]

/-- Setting the context. -/
def usePage : List String :=
  ["",
   "use - Set the context used as default parent",
   "",
   "USAGE:",
   "  use                  Show the current context",
   "  use <entity> <id>    Use a program, project or task",
   "  use <entity>         Clear that level",
   ""]

/-- The pages by topic. -/
def pages : Entries (List String) :=
  [("list", listPage),
   ("create", createPage),
   ("info", infoPage),
   ("remove", removePage),
   ("update", updatePage),
   ("search", searchPage),
   ("use", usePage)]

/-- The page on a topic, which may be named by any word for a verb. -/
def page (topic : String) : List String :=
  match pages.value? (Vocabulary.verb topic) with
  | some lines => lines
  | none =>
    ["No manual entry for \"" ++ topic ++ "\"",
     "Available topics: " ++ Text.join ", " pages.keys,
     "Use \"man\" for full manual"]

end TaskShell.Manual
