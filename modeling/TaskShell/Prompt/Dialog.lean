import TaskShell.Prompt.Basic

/-!
# Dialogs

A dialog is any course of questions, written lines and failures in which what comes later may
depend on earlier answers. A desk runs dialogs through a prompt and keeps account of what it wrote,
which answers it delivered and which failures it caught.

## Main definitions

* `Dialog` — the course of a dialog.
* `Dialog.run` — a dialog up to its next question.
* `Desk` — a prompt whose questions belong to dialogs.
* `Desk.start`, `Desk.ask`, `Desk.answer`, `Desk.reset` — what a desk can do.
-/

set_option autoImplicit false

namespace TaskShell

/-- The course of a dialog. -/
inductive Dialog
  | done
  | tell (line : String) (next : Dialog)
  | ask (question : Question) (next : String → Dialog)
  | fail (message : String)
  deriving Inhabited

/-- A dialog up to its next question: the lines written and how far it got. -/
def Dialog.run : Dialog → List String × Except String (Progress (String → Dialog))
  | .done => ([], .ok .finished)
  | .tell line next =>
    let (lines, progress) := next.run
    (line :: lines, progress)
  | .ask question next => ([], .ok (.asks question next))
  | .fail message => ([], .error message)

/-- What goes on when a question is answered. The failure of a `guarded` dialog is caught and
reported; any other leaves the desk. -/
structure Continuation where
  next : String → Dialog
  guarded : Bool

/-- A prompt whose questions belong to dialogs. -/
abbrev Desk := Prompt Continuation

namespace Desk

/-- What a desk did in one step: the lines it wrote, the answer it delivered, the failures it
caught, and its result, whether it had use for the line, or the failure that left it. -/
structure Step where
  lines : List String := []
  delivered : List String := []
  caught : List String := []
  result : Except String Bool := .ok true

/-- A dialog run to its next question. -/
def advance (desk : Desk) (guarded : Bool) (dialog : Dialog) : Desk × Step :=
  let (lines, progress) := dialog.run
  let progress := progress.map fun
    | .finished => .finished
    | .asks question next => .asks question (Continuation.mk next guarded)
  match Prompt.settle desk progress with
  | (desk, asked, none) => (desk, { lines := lines ++ asked })
  | (desk, _, some message) =>
    if guarded then (desk, { lines, caught := [message] })
    else (desk, { lines, result := .error message })

/-- A dialog started; its failures are caught. -/
def start (desk : Desk) (dialog : Dialog) : Desk × Step :=
  desk.advance true dialog

/-- A single question asked, and a dialog to go on with; failures are not caught. -/
def ask (desk : Desk) (question : Question) (next : String → Dialog) : Desk × Step :=
  desk.advance false (.ask question next)

/-- A line offered to the desk. -/
def answer (desk : Desk) (line : String) : Desk × Step :=
  match Prompt.offer desk line with
  | .idle => (desk, { result := .ok false })
  | .again question => (desk, { lines := Prompt.retryLines question })
  | .accepted answer continuation =>
    let (desk, step) := Desk.advance none continuation.guarded (continuation.next answer)
    (desk, { step with delivered := [answer] })

/-- The pending question dropped. -/
def reset (_ : Desk) : Desk :=
  none

end Desk

end TaskShell
