import TaskShell.Command.Arguments
import TaskShell.CommandLine.Location
import TaskShell.CommandLine.Options
import TaskShell.CommandLine.Runner
import TaskShell.Settings.Basic

/-!
# Invocations of the program

An invocation finds its settings and its store in a workplace: a directory with files, an
environment, and a default settings file. What it does to the store stays there for the next one.

## Main definitions

* `Workplace` — the directory and what the program draws on beside it.
* `Outcome` — how an invocation ended, and what it showed.
* `Workplace.invoke` — one invocation.
-/

set_option autoImplicit false

namespace TaskShell

/-- A file of a directory: a text, or a store. -/
inductive File
  | text (content : String)
  | store (records : List Record)

/-- A directory with files, the environment, the default settings file, and the ids, the time and
the room for documents that stores draw on. -/
structure Workplace where
  files : Entries File := []
  environment : Environment
  defaultSettings : Option String := none
  ids : IdSupply
  clock : Clock
  room : Json.Room := .standard

/-- How an invocation can end. -/
inductive Conclusion
  | ended (ending : Ending)
  | misused (misuse : Misuse)
  | noSettings (error : Settings.Error)
  | noStore (error : OpenError)
  | noSession (error : Session.Error)
  deriving Repr

/-- How an invocation ended, and what it showed. -/
structure Outcome where
  conclusion : Conclusion
  shown : List Piece := []

/-- What help is given on the program itself. -/
def usage : String :=
  "usage: unfold [-h] [--db DB] [--config CONFIG] [--verbose] [--version] ...\n"

/-- What operations on a store in memory meet: their table is missing. -/
def Faults.noTable : Faults :=
  { table := some "no such table: records" }

/-- What operations on a store that may only be read meet. -/
def Faults.readOnly : Faults :=
  { writing := some OpenError.readOnly.message }

namespace Workplace

/-- The text of the settings file: the one that is named, else the default one. Nothing is there
under a name with a null character. -/
def settingsText (w : Workplace) (o : Options) : Except Settings.Error (Option String) :=
  match o.config.filter (· != "") with
  | none => .ok w.defaultSettings
  | some text =>
    let path := Path.ofText text
    if !text.toList.contains '\x00' && path.isOverlong then .error (.longName path.text)
    else
      match w.files.value? path.text with
      | some (.text content) => .ok (some content)
      | some (.store _) => .error .notText
      | none => .ok none

/-- The settings of an invocation. -/
def settings (w : Workplace) (o : Options) : Except Settings.Error Settings := do
  Settings.load w.environment (← w.settingsText o)

/-- Whether a file has a name. -/
def hasFile (w : Workplace) (name : String) : Bool :=
  (w.files.value? name).isSome

/-- Whether a file with a name is a store. -/
def hasStore (w : Workplace) (name : String) : Bool :=
  match w.files.value? name with
  | some (.store _) => true
  | _ => false

/-- Where the path of a store leads. -/
def locate (w : Workplace) (path : String) : Except OpenError Location :=
  Location.ofPath w.hasFile path

/-- The records in a file, which has none if it is not there. -/
def recordsIn (w : Workplace) (name : String) : Except OpenError (List Record) :=
  match w.files.value? name with
  | some (.store records) => .ok records
  | some (.text "") | none => .ok []
  | some (.text _) => .error .notStore

/-- The records of the store at a location. -/
def openStore (w : Workplace) : Location → Except OpenError (List Record)
  | .memory => .ok []
  | .nowhere => .error .unreachable
  | .cramped name => do
    let _ ← w.recordsIn name
    throw .unreachable
  | .file name access => do
    if access != .make && !w.hasFile name then throw .unreachable
    let records ← w.recordsIn name
    if access = .read && !w.hasStore name then throw .readOnly
    return records

/-- The workplace with a file made at a location that no store could be opened at. -/
def touch (w : Workplace) : Location → Workplace
  | .cramped name => if w.hasFile name then w else { w with files := w.files.put name (.text "") }
  | _ => w

/-- The workplace with a store in its file. -/
def keep (w : Workplace) (place : Location) (s : Store) : Workplace :=
  let w := { w with ids := s.ids, clock := s.clock }
  match place with
  | .file name _ => { w with files := w.files.put name (.store s.records) }
  | .memory | .cramped _ | .nowhere => w

/-- What operations on a store at a location meet. -/
def faultsAt : Location → Faults
  | .memory => .noTable
  | .file _ access => if access = .read then .readOnly else {}
  | .cramped _ | .nowhere => {}

/-- A terminal on a store. -/
def terminal (faults : Faults) (s : Store) (session : Session) (aliases : Entries String) :
    Terminal :=
  { world := { store := s, session, faults := fun _ => faults }, aliases }

/-- A terminal set to work as options say: on the command that they give, else on a
conversation. -/
def start (o : Options) (t : Terminal) : Runner × List Piece :=
  if o.words.isEmpty then Runner.conversation t
  else Runner.once t (Command.joinArguments o.words)

/-- A terminal run as options say. -/
def runTerminal (o : Options) (t : Terminal) (input : List Input) : Runner × List Piece :=
  let (runner, opening) := start o t
  let (runner, shown) := runner.run input
  (runner, opening ++ shown)

/-- One invocation on the records at a location. The file of the store is there as soon as the
store has been opened. -/
def invokeOn (w : Workplace) (place : Location) (records : List Record) (o : Options)
    (settings : Settings) (input : List Input) : Outcome × Workplace :=
  let store : Store := ⟨records, w.ids, w.clock, w.room⟩
  match Session.create (some settings.historyLimit) with
  | .error e => ({ conclusion := .noSession e }, w.keep place store)
  | .ok session =>
    let t := terminal (faultsAt place) store session settings.aliases
    let (runner, shown) := runTerminal o t input
    ({ conclusion := .ended (runner.ending.getD .finished), shown },
     w.keep place runner.terminal.world.store)

/-- One invocation once the settings are known. -/
def invokeWith (w : Workplace) (o : Options) (settings : Settings) (input : List Input) :
    Outcome × Workplace :=
  match w.locate ((o.db.filter (· != "")).getD settings.dbPath) with
  | .error e => ({ conclusion := .noStore e }, w)
  | .ok place =>
    match w.openStore place with
    | .error e => ({ conclusion := .noStore e }, w.touch place)
    | .ok records => w.invokeOn place records o settings input

/-- One invocation. -/
def invoke (w : Workplace) (arguments : List String) (input : List Input) :
    Outcome × Workplace :=
  match Request.ofArguments arguments with
  | .error misuse => ({ conclusion := .misused misuse }, w)
  | .ok .version =>
    ({ conclusion := .ended .finished, shown := [.line Runner.versionLine] }, w)
  | .ok .help => ({ conclusion := .ended .finished, shown := [.aside usage] }, w)
  | .ok (.run o) =>
    match w.settings o with
    | .error e => ({ conclusion := .noSettings e }, w)
    | .ok settings => w.invokeWith o settings input

/-- The names of the files in the directory, sorted. -/
def fileNames (w : Workplace) : List String :=
  (w.files.keys.filter fun name => !name.toList.contains '/').mergeSort fun a b => !(b < a)

end Workplace

end TaskShell
