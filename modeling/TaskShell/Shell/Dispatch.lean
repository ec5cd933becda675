import TaskShell.Command.Validation
import TaskShell.Manual
import TaskShell.Shell.Records
import TaskShell.Shortcut

/-!
# Running command lines

A command line is expanded, split, normalized and validated, and the command of its verb is run.
`help`, `man` and `history` come before validation.

## Main definitions

* `Activity` — what can wait for an answer.
* `Command.parse` — the normalized command that a line stands for.
* `Shell.run` — a command line run.
* `Shell.resume` — an activity after the answer it waited for.
-/

set_option autoImplicit false

namespace TaskShell

/-- What can wait for an answer. A `refusal` only fails. -/
inductive Activity
  | creation (creation : Creation)
  | removal (removal : Removal)
  | refusal (message : String)
  deriving Repr

/-- The progress of an activity seen as progress of another. -/
def Progress.map {α β : Type} (f : α → β) : Progress α → Progress β
  | .finished => .finished
  | .asks question next => .asks question (f next)

/-- The normalized command that a line stands for. -/
def Command.parse (aliases : Entries String) (line : String) : Command :=
  (Command.ofLine (Shortcut.expand aliases line)).normalize

namespace Shell

/-- The history, numbered. -/
def historyLines (history : List String) : List String :=
  let width := (toString history.length).length
  history.zipIdx.map fun (line, i) =>
    let number := toString (i + 1)
    "  " ++ String.ofList (List.replicate (width - number.length) ' ') ++ number ++ "  " ++ line

/-- The lines that answer a command before validation, if it is one that they answer: `help` and
`man`, `history` on its own, and `init`, which is still to come. -/
def builtin? (history : List String) (c : Command) (line : String) : Option (List String) :=
  let bare := Text.lower (Text.trim line)
  if c.verb = some "help" ∨ bare = "help" then some Manual.quickReference
  else if c.verb = some "man" ∨ bare = "man" then
    match Command.nonEmpty? c.entity with
    | some topic => some (Manual.page topic)
    | none => some Manual.full
  else if c.verb = some "history" ∧ !Command.given c.entity then some (historyLines history)
  else if c.verb = some "init" then some ["\"init\" command not yet implemented"]
  else none

/-- The user told what is wrong with a command. -/
def complain (problem : Command.Problem) : Shell Unit := do
  say ("Error: " ++ problem.message)
  match problem.suggestions with
  | [] => pure ()
  | suggestions => say ("Suggestions: " ++ Text.join ", " suggestions)

/-- The word that a line gives for a command. -/
def spokenVerb (c : Command) (line : String) : String :=
  (Command.nonEmpty? c.verb).getD (String.ofList (Chars.firstWord line.toList))

/-- The command of a verb run. -/
def dispatch (c : Command) (line : String) : Shell (Progress Activity) := do
  match c.verb.bind Verb.ofName? with
  | some .list => do list c; return .finished
  | some .search => do search c; return .finished
  | some .info => do info c; return .finished
  | some .update => do update c; return .finished
  | some .use => do use c; return .finished
  | some .create => return (← create c).map .creation
  | some .remove => return (← remove c).map .removal
  | some .help | some .man | none =>
    say ("Unknown command: " ++ spokenVerb c line)
    say "Type \"help\" for available commands."
    return .finished

/-- A command line run. -/
def run (aliases : Entries String) (line : String) : Shell (Progress Activity) := do
  modifySession fun s => s.remember line
  let c := Command.parse aliases (Text.trim line)
  match builtin? (← get).session.history c line with
  | some lines =>
    sayAll lines
    return .finished
  | none =>
    match c.problem? with
    | some problem =>
      complain problem
      return .finished
    | none => dispatch c line

/-- An activity after the answer it waited for. -/
def resume (activity : Activity) (answer : String) : Shell (Progress Activity) :=
  match activity with
  | .creation c => return (← c.resume answer).map .creation
  | .removal r => do
    r.resume answer
    return .finished
  | .refusal message => fail (.refused message)

end Shell

end TaskShell
