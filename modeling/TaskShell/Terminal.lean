import TaskShell.Shell.Dispatch

/-!
# Terminals

A terminal is a world of commands with a prompt, the user's aliases, and in front of them a line
buffer that turns keystrokes into lines. While a question is pending, the next line answers it,
whichever way it comes in.

## Main definitions

* `Terminal` — world, prompt, aliases, buffer and whether a command is being processed.
* `Terminal.answer`, `Terminal.command` — a line as an answer, a line as a command.
* `Terminal.submit` — a complete line, routed to one of the two or dropped.
* `Terminal.feed`, `Terminal.interrupt` — keystrokes.
* `Terminal.Event`, `Terminal.perform` — everything that can happen to a terminal.
-/

set_option autoImplicit false

namespace TaskShell

/-- A terminal. `echo` is what it has written of its own accord to show the line buffer. -/
structure Terminal where
  world : World
  prompt : Prompt Activity := none
  aliases : Entries String := []
  buffer : List Char := []
  processing : Bool := false
  echo : List Char := []

namespace Terminal

/-- Lines written at the end of the others. -/
def write (w : World) (lines : List String) : World :=
  { w with journal := w.journal ++ lines.map .line }

/-- The terminal after an action that got so far or failed; a failure is reported. -/
def settle (t : Terminal) (outcome : Except Failure (Progress Activity) × World) : Terminal :=
  let (prompt, lines, failure) := Prompt.settle t.prompt outcome.1
  let report := failure.toList.map fun f => "Error: " ++ f.message
  { t with prompt, world := write outcome.2 (lines ++ report) }

/-- A line offered as an answer, and whether a question was pending. -/
def answer (t : Terminal) (line : String) : Terminal × Bool :=
  match Prompt.offer t.prompt line with
  | .idle => (t, false)
  | .again question => ({ t with world := write t.world (Prompt.retryLines question) }, true)
  | .accepted answer activity =>
    let t := { t with prompt := none }
    (t.settle ((Shell.resume activity answer).perform t.world), true)

/-- A line run as a command, unless a question is pending, which it then answers. -/
def command (t : Terminal) (line : String) : Terminal :=
  if t.prompt.isSome then (t.answer line).1
  else if Text.isBlankLine line then t
  else t.settle ((Shell.run t.aliases line).perform t.world)

/-- A complete line: an answer to the pending question, else a command, unless one is being
processed; then the line is dropped. Answers whether it was taken. -/
def submit (t : Terminal) (line : String) : Terminal × Bool :=
  if t.prompt.isSome then ((t.answer line).1, true)
  else if t.processing then (t, false)
  else ({ t.command line with processing := false }, true)

/-! ## Keystrokes -/

/-- Characters written to show the buffer. -/
def draw (t : Terminal) (text : List Char) : Terminal :=
  { t with echo := t.echo ++ text }

/-- The unfinished line forgotten. -/
def interrupt (t : Terminal) : Terminal :=
  { t with buffer := [], processing := false }.draw ['^', 'C', '\r', '\n']

/-- The buffer completed from the known commands: a single candidate takes its place, several are
listed. Answers are not completed. -/
def complete (t : Terminal) : Terminal :=
  if t.prompt.isSome then t
  else
    match Shortcut.complete (String.ofList t.buffer) with
    | [] => t
    | [candidate] =>
      { t with buffer := candidate.toList }.draw (candidate.toList.drop t.buffer.length)
    | candidates =>
      t.draw (['\r', '\n'] ++ (Text.join "  " candidates).toList ++ ['\r', '\n'] ++ t.buffer)

/-- A keystroke: submit, backspace, interrupt, tab, or a character of the line. Characters that
cannot be shown are ignored. -/
def key (t : Terminal) (c : Char) : Terminal :=
  if c = '\r' then
    let line := String.ofList t.buffer
    (({ t with buffer := [] }.draw ['\r', '\n']).submit line).1
  else if c = '\x7f' then
    if t.buffer.isEmpty then t
    else { t with buffer := t.buffer.dropLast }.draw ['\x08', ' ', '\x08']
  else if c = '\x03' then t.interrupt
  else if c = '\t' then t.complete
  else if Text.isPrintable c then { t with buffer := t.buffer ++ [c] }.draw [c]
  else t

/-- Keystrokes in turn. -/
def feed (t : Terminal) (keys : List Char) : Terminal :=
  keys.foldl key t

/-! ## Events -/

/-- The operations that can be made to refuse. -/
inductive Operation
  | repository
  | create
  | get
  | list
  | update
  | delete
  | refresh
  deriving DecidableEq, Repr

/-- An operation made to refuse with a message, or to work again. -/
def Operation.refuse (operation : Operation) (message : Option String) (f : Faults) : Faults :=
  match operation with
  | .repository => { f with repository := message }
  | .create => { f with create := message }
  | .get => { f with get := message }
  | .list => { f with list := message }
  | .update => { f with update := message }
  | .delete => { f with delete := message }
  | .refresh => { f with refresh := message }

/-- What can happen to a terminal. A record can also be stored or looked up past it. -/
inductive Event
  | command (line : String)
  | answer (line : String)
  | feed (keys : String)
  | submit (line : String)
  | interrupt
  | processing (value : Bool)
  | reset
  | askRefusal (message : String)
  | refuse (operation : Operation) (message : Option String)
  | store (kind : String) (data : Fields)
  | dump (kind : String)

/-- What an event answers with. -/
inductive Reply
  | none
  | taken (value : Bool)
  | id (value : String)
  | records (records : List Fields)
  deriving Repr

/-- A record stored past the terminal. -/
def put (t : Terminal) (kind : String) (data : Fields) : Except Store.Error Reply × Terminal :=
  match Store.kindNamed kind with
  | .error e => (.error e, t)
  | .ok kind =>
    let (outcome, store) := t.world.store.create kind data
    (outcome.map Reply.id, { t with world := { t.world with store } })

/-- An event, on a terminal that has forgotten what it wrote before. -/
def perform (t : Terminal) (event : Event) : Except Store.Error Reply × Terminal :=
  let t := { t with world := { t.world with journal := [] }, echo := [] }
  match event with
  | .command line => (.ok .none, t.command line)
  | .answer line => let (t, taken) := t.answer line; (.ok (.taken taken), t)
  | .feed keys => (.ok .none, t.feed keys.toList)
  | .submit line => let (t, taken) := t.submit line; (.ok (.taken taken), t)
  | .interrupt => (.ok .none, t.interrupt)
  | .processing value => (.ok .none, { t with processing := value })
  | .reset => (.ok .none, { t with prompt := none })
  | .askRefusal message =>
    (.ok .none, t.settle (.ok (.asks { text := "Q" } (.refusal message)), t.world))
  | .refuse operation message =>
    (.ok .none, { t with world :=
      { t.world with faults := fun n => operation.refuse message (t.world.faults n) } })
  | .store kind data => t.put kind data
  | .dump kind =>
    ((Store.kindNamed kind).map fun kind => .records ((t.world.store.list kind).map Record.fields),
      t)

end Terminal

end TaskShell
