import Std.Time.DateTime.Timestamp
import TaskShell.CommandLine.Workplace
import TaskShell.Store.Archive

/-!
# The program

Settings and records are read from files, lines from standard input; what is shown goes to standard
output, what is wrong to standard error. The records are kept after every line.

## Main definitions

* `main` — the program.
-/

set_option autoImplicit false

namespace TaskShell.Program

/-- The text of a file that can be read. -/
def readText? (path : String) : IO (Option String) := do
  try
    return some (← IO.FS.readFile path)
  catch _ => return none

/-- An environment variable, with a value that stands in for it. -/
def envValue (name fallback : String) : IO String := do
  return (← IO.getEnv name).getD fallback

/-- The path of the settings file. -/
def settingsPath (o : Options) : IO String := do
  match o.config.filter (· != "") with
  | some path => return path
  | none =>
    let directory ← envValue "XDG_CONFIG_HOME" ((← envValue "HOME" "") ++ "/.config")
    return directory ++ "/unfold/config.yaml"

/-- The home directories, and the environment variables that settings heed. -/
def surroundings : IO Environment := do
  let accounts := Home.ofAccountList ((← readText? "/etc/passwd").getD "")
  let bindings := [("UNFOLD_DB", ← envValue "UNFOLD_DB" ""),
    ("UNFOLD_LOG_LEVEL", ← envValue "UNFOLD_LOG_LEVEL" "")]
  return { home := { own := ← envValue "HOME" "/", accounts }, bindings }

/-- The time. -/
def now : IO Instant := do
  return .after1970 ((← Std.Time.Timestamp.now).toNanosecondsSinceUnixEpoch.val / 1000)

/-- Records kept in the file of a store; a store in memory has none. -/
def keep (name : StoreName) (s : Store) : IO Unit := do
  if let .file path access := name then
    unless access = .read do IO.FS.writeFile path (Store.archive s.records)

/-- The records in the file of a store, which is made if it may be and is not there. -/
def openStore : StoreName → IO (Except OpenError (List Record))
  | .memory => return .ok []
  | .file path access => do
    try
      match ← readText? path with
      | none =>
        unless access = .make do return .error .unreachable
        IO.FS.writeFile path ""
        return .ok []
      | some text =>
        match Store.unarchive? text with
        | some records => return .ok records
        | none => return .error .notStore
    catch _ => return .error .unreachable

/-- What operations on a store meet. -/
def faultsOf : StoreName → Faults
  | .memory => .noTable
  | .file _ access => if access = .read then .readOnly else {}

/-- What a path of a store asks for, and the records there. -/
def openNamed (path : String) : IO (Except OpenError (StoreName × List Record)) := do
  match StoreName.ofPath path with
  | .error e => return .error e
  | .ok name => return (← openStore name).map fun records => (name, records)

/-- A line of standard input without its end, or the end of input. -/
def nextInput : IO (Option Input) := do
  let line ← (← IO.getStdin).getLine
  if line = "" then return none
  return some (.line (String.ofList (Chars.dropEnd (· == '\n') line.toList)))

/-- Text shown at once. -/
def showText (text : String) : IO Unit := do
  IO.print text
  (← IO.getStdout).flush

/-- A runner whose clock shows the time. -/
def refresh (r : Runner) : IO Runner := do
  let clock : Clock := { next := (← now).micros, tick := 1 }
  let world := r.terminal.world
  return { r with terminal := { r.terminal with
    world := { world with store := { world.store with clock } } } }

/-- Input until the run has ended. -/
partial def converse (name : StoreName) (r : Runner) : IO Unit := do
  keep name r.terminal.world.store
  match r.cue? with
  | none => return
  | some cue =>
    showText cue
    let input ← nextInput
    let (r, shown) := (← refresh r).receive input
    showText (Piece.textAll shown)
    converse name r

/-- A failure told, and its exit code. -/
def complain (message : String) (code : UInt32 := 1) : IO UInt32 := do
  IO.eprintln ("unfold: error: " ++ message)
  return code

/-- A run as options say. -/
def run (o : Options) : IO UInt32 := do
  match Settings.load (← surroundings) (← readText? (← settingsPath o)) with
  | .error e => complain e.message
  | .ok settings =>
    let path := (Path.ofText ((o.db.filter (· != "")).getD settings.dbPath)).text
    match ← openNamed path with
    | .error e => complain e.message
    | .ok (name, records) =>
      match Session.create (some settings.historyLimit) with
      | .error e => complain e.message
      | .ok session =>
        let seed ← IO.rand 0 1073741823
        let clock : Clock := { next := (← now).micros, tick := 1 }
        let store : Store := ⟨records, .scattered seed, clock, .standard⟩
        let terminal := Workplace.terminal (faultsOf name) store session settings.aliases
        let (runner, opening) := Workplace.start o terminal
        showText (Piece.textAll opening)
        converse name runner
        return 0

end TaskShell.Program

open TaskShell in
/-- The program: its exit code is 2 for wrong arguments, and 1 where it could not begin. -/
def main (arguments : List String) : IO UInt32 := do
  match Request.ofArguments arguments with
  | .error misuse =>
    IO.eprint usage
    Program.complain misuse.message 2
  | .ok .help =>
    IO.print usage
    return 0
  | .ok .version =>
    IO.println Runner.versionLine
    return 0
  | .ok (.run o) => Program.run o
