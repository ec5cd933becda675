import TaskShell.Entries
import TaskShell.Text.Words

/-!
# Commands

A command line reads `<verb> <entity> [target] [flags]`.

## Main definitions

* `Command` — the parts of a command line.
* `Command.flag?` — the first non-empty flag among some names.
* `Command.recordId?` — the record that a command names.
-/

set_option autoImplicit false

namespace TaskShell

/-- The parts of a command line, and the line itself. -/
structure Command where
  verb : Option String := none
  entity : Option String := none
  target : Option String := none
  flags : Entries String := []
  raw : String := ""
  deriving DecidableEq, Repr, Inhabited

namespace Command

/-- Whether an optional word is there and not empty. -/
def given (word : Option String) : Bool :=
  match word with
  | some s => s != ""
  | none => false

/-- An optional word, unless it is empty. -/
def nonEmpty? (word : Option String) : Option String :=
  word.filter (· != "")

/-- The value of a flag, unless it is empty. -/
def flagValue? (c : Command) (name : String) : Option String :=
  nonEmpty? (c.flags.value? name)

/-- The first non-empty flag value among `names`. -/
def flag? (c : Command) (names : List String) : Option String :=
  names.findSome? c.flagValue?

/-- The record that the command names: its target, or else its `id` flag. -/
def recordId? (c : Command) : Option String :=
  (nonEmpty? c.target).or (c.flags.value? "id")

end Command

end TaskShell
