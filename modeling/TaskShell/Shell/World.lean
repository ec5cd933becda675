import TaskShell.Schema.Build
import TaskShell.Session
import TaskShell.Store.Basic

/-!
# The world of commands

Commands act on a world: the record store, the session, and the journal of what has happened. An
action can fail; what it has done until then stays done. Any call of an operation of the store, and
any refresh notice, can be made to refuse, each call on its own.

## Main definitions

* `World`, `Failure`, `Shell` — the state, the failures and the actions of commands.
* `Occurrence` — what the journal keeps of an action, in order.
* `Shell.say`, `Shell.notify` — a line written, a refresh notice given.
* `Shell.repository`, `Shell.createRecord`, `Shell.findRecord`, `Shell.listRecords`,
  `Shell.updateRecord`, `Shell.deleteRecord` — the store as commands reach it.
-/

set_option autoImplicit false

namespace TaskShell

/-- The operations that refuse, each with the message it refuses with. All operations on records
refuse where their table is missing, a creation only after it has drawn an id. Where writing is
refused, nothing else of an operation is left out. -/
structure Faults where
  table : Option String := none
  writing : Option String := none
  repository : Option String := none
  create : Option String := none
  get : Option String := none
  list : Option String := none
  update : Option String := none
  delete : Option String := none
  refresh : Option String := none
  deriving DecidableEq, Repr, Inhabited

/-- How a command can fail. -/
inductive Failure
  | store (error : Store.Error)
  | schema (error : Schema.Error)
  | limit (raw : String)
  | refused (message : String)
  deriving Repr

/-- What the user is told. -/
def Failure.message : Failure → String
  | .store e => e.message
  | .schema e => e.message
  | .limit raw => "Invalid limit: \"" ++ raw ++ "\". Expected a positive number"
  | .refused message => message

/-- What can happen in the course of an action: a line is written, the records change, a refresh
notice is given, or something fails. -/
inductive Occurrence
  | line (text : String)
  | change
  | refresh
  | failure (cause : Failure)
  deriving Repr

/-- The text of a written line. -/
def Occurrence.line? : Occurrence → Option String
  | .line text => some text
  | _ => none

/-- What commands act on. Each call of an operation meets faults of its own, found by the number of
calls before it. -/
structure World where
  store : Store
  session : Session
  faults : Nat → Faults := fun _ => {}
  calls : Nat := 0
  refreshes : Nat := 0
  journal : List Occurrence := []

/-- The lines written so far. -/
def World.lines (w : World) : List String :=
  w.journal.filterMap Occurrence.line?

/-- Actions of commands: they can fail, and what was done before a failure stays done. -/
abbrev Shell := ExceptT Failure (StateM World)

namespace Shell

/-- The outcome of an action and the world after it. -/
def perform {α : Type} (action : Shell α) (w : World) : Except Failure α × World :=
  (ExceptT.run action).run w

/-- Occurrences added to the journal. -/
def note (occurrences : List Occurrence) : Shell Unit :=
  modify fun w => { w with journal := w.journal ++ occurrences }

/-- A line written. -/
def say (line : String) : Shell Unit :=
  note [.line line]

/-- Lines written. -/
def sayAll (lines : List String) : Shell Unit :=
  note (lines.map .line)

/-- A failure, which the journal keeps. -/
def fail {α : Type} (cause : Failure) : Shell α := do
  note [.failure cause]
  throw cause

/-- A refusal, if there is one to make. -/
def heed (fault : Option String) : Shell Unit :=
  match fault with
  | some message => fail (.refused message)
  | none => pure ()

/-- The faults that a call meets. -/
def call : Shell Faults := do
  let w ← get
  set { w with calls := w.calls + 1 }
  return w.faults w.calls

/-- A refresh notice: it is counted even if it is refused. -/
def notify : Shell Unit := do
  let faults ← call
  modify fun w => { w with refreshes := w.refreshes + 1 }
  note [.refresh]
  heed faults.refresh

/-- The session changed. -/
def modifySession (f : Session → Session) : Shell Unit :=
  modify fun w => { w with session := f w.session }

/-- An operation that changes the store. If writing is refused, it does so after what it needs has
been drawn and found fit, and whether its title is null has not been seen. -/
def changeStore {α : Type} (refusal : Option String)
    (operation : Store → Except Store.Error α × Store) : Shell α := do
  let w ← get
  let (outcome, store) := operation w.store
  set { w with store := if refusal.isSome then { store with records := w.store.records } else store }
  match outcome with
  | .ok a =>
    heed refusal
    note [.change]
    return a
  | .error e =>
    if e = .titleNull then heed refusal
    fail (.store e)

/-- The kind of records with a name. -/
def repository (name : String) : Shell Entity := do
  heed (← call).repository
  match Store.kindNamed name with
  | .ok kind => return kind
  | .error e => fail (.store e)

/-- The schema of the kind of records with a name. -/
def schema (name : String) : Shell Schema :=
  match Schema.ofName name with
  | .ok schema => pure schema
  | .error e => fail (.schema e)

/-- The faults that a call meets, if neither one operation is to refuse nor the table is
missing. -/
def callUnless (fault : Faults → Option String) : Shell Faults := do
  let faults ← call
  heed (fault faults)
  heed faults.table
  return faults

/-- A record created. -/
def createRecord (kind : Entity) (data : Fields) : Shell String := do
  let faults ← call
  heed faults.create
  if faults.table.isSome then modify fun w => { w with store := w.store.passId }
  heed faults.table
  changeStore faults.writing fun s => s.create kind data

/-- The fields of the record of a kind with an id. -/
def findRecord (kind : Entity) (id : Option String) : Shell (Option Fields) := do
  let _ ← callUnless Faults.get
  return ((← get).store.find? kind id).map Record.fields

/-- The fields of all records of a kind. -/
def listRecords (kind : Entity) : Shell (List Fields) := do
  let _ ← callUnless Faults.list
  return ((← get).store.list kind).map Record.fields

/-- Fields of a record replaced. -/
def updateRecord (kind : Entity) (id : Option String) (changes : Fields) : Shell Unit := do
  let faults ← callUnless Faults.update
  changeStore faults.writing fun s => s.update kind id changes

/-- A record deleted. -/
def deleteRecord (kind : Entity) (id : Option String) : Shell Unit := do
  let faults ← callUnless Faults.delete
  changeStore faults.writing fun s => s.delete kind id

end Shell

end TaskShell
