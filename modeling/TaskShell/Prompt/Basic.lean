import TaskShell.Text.Words

/-!
# Prompts

A prompt holds at most one pending question, and whatever is to be done with the answer. The next
accepted line answers it; a blank line does not answer a required question, which is asked again.

## Main definitions

* `Question`, `Pending` — a question, and one that waits for its answer.
* `Prompt.offer` — what becomes of a line that is offered to a prompt.
* `Progress` — how far an activity got: it has finished, or it asks.
* `Prompt.settle` — the prompt after an activity has got so far, or has failed.
-/

set_option autoImplicit false

namespace TaskShell

/-- A question, and whether it must be answered. -/
structure Question where
  text : String
  required : Bool := false
  deriving DecidableEq, Repr, Inhabited

/-- A question that waits for its answer, and what is then to be done. -/
structure Pending (α : Type) where
  question : Question
  next : α

/-- A pending question, or none. -/
abbrev Prompt (α : Type) := Option (Pending α)

/-- How far an activity got: it has finished, or it asks a question and will go on from there. -/
inductive Progress (α : Type)
  | finished
  | asks (question : Question) (next : α)

/-- The line that asks a question. -/
def Question.line (q : Question) : String :=
  q.text ++ ":"

namespace Prompt

variable {α ε : Type}

/-- The line that refuses a blank answer to a required question. -/
def retryNotice : String := "This field is required. Please try again."

/-- What becomes of a line: no question is pending, the question is asked again, or the line,
trimmed, is the answer. -/
inductive Offer (α : Type)
  | idle
  | again (question : Question)
  | accepted (answer : String) (next : α)

/-- A line offered to a prompt. -/
def offer (p : Prompt α) (line : String) : Offer α :=
  match p with
  | none => .idle
  | some pending =>
    let answer := Text.trim line
    if pending.question.required && answer == "" then .again pending.question
    else .accepted answer pending.next

/-- The lines that ask a question again. -/
def retryLines (q : Question) : List String :=
  [retryNotice, q.line]

/-- The prompt after an activity, the lines that this writes, and the failure of the activity, if
it failed. A new question takes the place of a pending one; an activity that finishes leaves the
prompt alone; one that fails empties it. -/
def settle (p : Prompt α) : Except ε (Progress α) → Prompt α × List String × Option ε
  | .ok .finished => (p, [], none)
  | .ok (.asks question next) => (some ⟨question, next⟩, [question.line], none)
  | .error e => (none, [], some e)

end Prompt

end TaskShell
