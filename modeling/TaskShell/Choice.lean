import TaskShell.Suggestion
import TaskShell.Text.Words

/-!
# Choices

Values that must be one of a few words.

## Main definitions

* `Choice.priorities`, `Choice.statuses`, `Choice.subtaskStatuses` — the words to choose from.
* `Choice.rejection?` — why a value is not one of the choices.
* `Choice.Rejection.message`, `Choice.Rejection.suggestions` — what the user is told.
-/

set_option autoImplicit false

namespace TaskShell.Choice

/-- The priorities of records. -/
def priorities : List String := ["low", "medium", "high", "critical"]

/-- The statuses of programs, projects and tasks, and of what commands may name. -/
def statuses : List String := ["planned", "active", "paused", "due", "completed"]

/-- The statuses of subtasks. -/
def subtaskStatuses : List String := ["planned", "completed"]

/-- A value that is not one of the choices for `label`, and the choice nearest to it. -/
structure Rejection where
  label : String
  value : String
  choices : List String
  closest : Option String
  deriving DecidableEq, Repr

/-- Why a value is not one of the choices, letter case aside. -/
def rejection? (label value : String) (choices : List String) : Option Rejection :=
  let lowered := Text.lower value
  if choices.contains lowered then none
  else some ⟨label, value, choices, (Suggestion.closest? lowered choices).filter (· != "")⟩

namespace Rejection

/-- What the user is told. -/
def message (r : Rejection) : String :=
  let hint :=
    match r.closest with
    | some word => "Did you mean \"" ++ word ++ "\"?"
    | none => "Valid: " ++ Text.join ", " r.choices
  "Invalid " ++ r.label ++ ": \"" ++ r.value ++ "\". " ++ hint

/-- What the user may have meant. -/
def suggestions (r : Rejection) : List String :=
  r.closest.toList

end Rejection

end TaskShell.Choice
