import TaskShell.Terminal

/-!
# Running a terminal on input

A terminal meets its user in two ways. A single command is run, and input only answers its
questions. Or input is a conversation: whatever is typed is a command or an answer, until a word
that ends it. Both are machines that wait for one input at a time.

## Main definitions

* `Input`, `Piece` — what a user can do, and the pieces of what is shown.
* `Runner` — a terminal, and the way in which it is run.
* `Runner.once`, `Runner.conversation` — the two ways, up to where input is waited for.
* `Runner.receive` — a runner after one input.
* `Runner.run` — a runner on a list of inputs and the end of input after them.
-/

set_option autoImplicit false

namespace TaskShell

/-- What a user can do: enter a line, or interrupt. -/
inductive Input
  | line (text : String)
  | interrupt
  deriving DecidableEq, Repr

/-- A piece of what is shown: a line that the terminal wrote, or a text around those lines. -/
inductive Piece
  | line (text : String)
  | aside (text : String)
  deriving DecidableEq, Repr

namespace Piece

/-- The text of a piece. -/
def text : Piece → String
  | .line s => s ++ "\n"
  | .aside s => s

/-- The text of pieces. -/
def textAll (pieces : List Piece) : String :=
  String.join (pieces.map text)

/-- The line that the terminal wrote, if the piece is one. -/
def line? : Piece → Option String
  | .line s => some s
  | .aside _ => none

end Piece

/-- How a run can end. -/
inductive Ending
  | finished
  | interrupted
  deriving DecidableEq, Repr

/-- A terminal and the way in which it is run: whether input is a conversation, and how the run
ended, once it has. -/
structure Runner where
  terminal : Terminal
  converses : Bool
  ending : Option Ending := none

namespace Runner

/-- The name and version of the program. -/
def versionLine : String := "unfold 0.1.0"

/-- What opens a conversation. -/
def banner : String :=
  versionLine ++ "\nType \"help\" for available commands, \"quit\" to exit.\n\n"

/-- Words that end a conversation. -/
def quitWords : List String := ["quit", "exit", "q"]

/-- Whether a line ends a conversation, letter case and blanks around it aside. -/
def isQuit (line : String) : Bool :=
  quitWords.contains (Text.lower (Text.trim line))

/-- What stands before an input, if one is waited for: it tells an answer from a command. -/
def cue? (r : Runner) : Option String :=
  if r.ending.isSome then none
  else if r.terminal.prompt.isSome then some "? "
  else some "> "

/-- The lines that the terminal has written, taken from it. -/
def flush (r : Runner) : Runner × List Piece :=
  let t := r.terminal
  ({ r with terminal := { t with world := { t.world with journal := [] } } },
   t.world.lines.map .line)

/-- A runner that has ended. -/
def finish (r : Runner) (ending : Ending := .finished) : Runner :=
  { r with ending := some ending }

/-- A run that answers questions ends when none is pending. -/
def finishIfIdle (r : Runner) : Runner :=
  if r.converses || r.terminal.prompt.isSome then r else r.finish

/-- A single command, up to its first question. -/
def once (t : Terminal) (line : String) : Runner × List Piece :=
  (finishIfIdle { terminal := t.command line, converses := false }).flush

/-- A conversation, up to its first line. -/
def conversation (t : Terminal) : Runner × List Piece :=
  ({ terminal := t, converses := true }, [.aside banner])

/-- The end of input: a pending answer to a single command is given up. -/
def hangUp (r : Runner) : Runner × List Piece :=
  if r.converses then (r.finish, [.aside "\nGoodbye!\n"])
  else
    (finish { r with terminal := { r.terminal with prompt := none } }, [.aside "\nCancelled.\n"])

/-- An interrupt: a conversation goes on, anything else is over. -/
def interrupt (r : Runner) : Runner × List Piece :=
  if r.converses then ({ r with terminal := r.terminal.interrupt }, [.aside "\n"])
  else (r.finish .interrupted, [])

/-- A line: an answer, a command, or the word that ends a conversation. -/
def enter (r : Runner) (line : String) : Runner × List Piece :=
  if r.converses then
    if r.terminal.prompt.isNone && isQuit line then (r.finish, [.aside "Goodbye!\n"])
    else flush { r with terminal := (r.terminal.submit line).1 }
  else (finishIfIdle { r with terminal := (r.terminal.answer line).1 }).flush

/-- A runner after one input, or after the end of input. -/
def receive (r : Runner) : Option Input → Runner × List Piece
  | none => r.hangUp
  | some .interrupt => r.interrupt
  | some (.line line) => r.enter line

/-- A runner on inputs and the end of input after them; what is left once it has ended is not
read. -/
def run (r : Runner) (inputs : List Input) : Runner × List Piece :=
  match r.cue?, inputs with
  | none, _ => (r, [])
  | some cue, [] =>
    let (r, shown) := r.receive none
    (r, .aside cue :: shown)
  | some cue, input :: rest =>
    let (r, shown) := r.receive (some input)
    let (r, more) := run r rest
    (r, .aside cue :: shown ++ more)

end Runner

end TaskShell
