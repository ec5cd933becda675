import TaskShell.Number.Reader
import TaskShell.Settings.Path
import TaskShell.Value.Display
import TaskShell.Yaml.Reader
import TaskShell.Yaml.Writer

/-!
# Settings

The user's settings: where the store is, how long the history grows, how much is logged, and
aliases for commands. They come from a file, in YAML unless another format is given; what cannot be
used there falls back to the default. Two environment variables go before the file.

## Main definitions

* `Settings` — the settings.
* `Settings.Format` — how files are read and written.
* `Settings.Sheet` — what a file says about them.
* `Settings.ofMapping` — settings from the entries of a mapping.
* `Settings.load` — settings from the text of a file and the environment.
* `Settings.fields`, `Settings.fileText` — settings as fields and as the text of a file.
-/

set_option autoImplicit false

namespace TaskShell

/-- The settings. -/
structure Settings where
  dbPath : String := "unfold.db"
  historyLimit : Int := 100
  logLevel : String := "WARNING"
  aliases : Entries String := []
  deriving DecidableEq, Repr, Inhabited

/-- The surroundings of a program: home directories and environment variables. -/
structure Environment where
  home : Home
  bindings : Entries String := []
  deriving Repr, Inhabited

namespace Settings

/-- How reading settings can fail: a history without end, a home directory that cannot be told, the
name of an account with a null character, a number with too many digits to be written as a text, or
a file that has too long a name, that is a store and no text, or that spells an impossible
value. -/
inductive Error
  | infiniteLimit
  | noHome
  | nullCharacter
  | tooManyDigits
  | longName (path : String)
  | notText
  | file (cause : Yaml.Error)
  deriving DecidableEq, Repr

/-- What the user is told. -/
def Error.message : Error → String
  | .infiniteLimit => "cannot convert float infinity to integer"
  | .noHome => "Could not determine home directory."
  | .nullCharacter => "embedded null byte"
  | .tooManyDigits =>
    "Exceeds the limit (4300 digits) for integer string conversion; " ++
      "use sys.set_int_max_str_digits() to increase the limit"
  | .longName path => "[Errno 36] File name too long: " ++ Text.literal path
  | .notText => "'utf-8' codec can't decode byte 0xf8 in position 102: invalid start byte"
  | .file cause => cause.message

/-! ## What a file says -/

/-- A whole number for which a value may stand: there is none, or the value is infinite. -/
inductive Whole
  | none
  | some (n : Int)
  | infinite
  deriving DecidableEq, Repr

/-- A value as settings see it: whether it is given, its text if it has one, and the whole number for
which it stands. -/
structure Entry where
  isGiven : Bool
  shown : Option String
  whole : Whole
  deriving DecidableEq, Repr

/-- A whole number that was found, or none. -/
def Whole.ofOption : Option Int → Whole
  | .some n => .some n
  | .none => .none

namespace Entry

/-- The whole number for which a value stands. -/
def wholeOf : Value → Whole
  | .bool value => .some (if value then 1 else 0)
  | .int n => .some n
  | .float (.infinite _) => .infinite
  | .float x => .ofOption x.truncate?
  | .text s => .ofOption (Number.readInt? s)
  | _ => .none

/-- A value as settings see it. -/
def ofValue (v : Value) : Entry :=
  ⟨v.isGiven, some v.display, wholeOf v⟩

/-- The whole number for which a datum of a file stands; bytes are read as a text. -/
def wholeOfDatum : Yaml.Datum → Whole
  | .value v => wholeOf v
  | .bytes content =>
    if content.all (· < 128) then
      .ofOption (Number.readInt? (String.ofList (content.map fun b => Char.ofNat b.toNat)))
    else .none
  | _ => .none

/-- A datum of a file as settings see it. -/
def ofDatum (d : Yaml.Document) (number : Nat) : Entry :=
  ⟨d.isGiven number, d.display? number, wholeOfDatum (d.datum number)⟩

/-- The text of a value. -/
def text (entry : Entry) : Except Error String :=
  match entry.shown with
  | some text => .ok text
  | none => .error .tooManyDigits

end Entry

/-- How files are read and written: a reader of documents, which may fail, and a writer of values. -/
structure Format where
  read : String → Except Yaml.Error (Option Yaml.Document)
  write : Value → String

/-- YAML. -/
def Format.yaml : Format :=
  ⟨Yaml.read, Yaml.write⟩

/-- What a file says about settings. -/
structure Sheet where
  dbPath : Option Entry := none
  historyLimit : Option Entry := none
  logLevel : Option Entry := none
  aliases : List (Entry × Entry) := []
  deriving Repr, Inhabited

/-- The value under a text key of a mapping. -/
def valueUnder? (entries : List (Value × Value)) (key : String) : Option Value :=
  (entries.find? fun (k, _) => match k with | .text s => s == key | _ => false).map Prod.snd

namespace Sheet

/-- What the entries of a mapping say. -/
def ofMapping (entries : List (Value × Value)) : Sheet :=
  let entry? (key : String) : Option Entry := (valueUnder? entries key).map .ofValue
  let aliases :=
    match valueUnder? entries "aliases" with
    | some (.map aliases) => aliases.map fun (word, command) => (.ofValue word, .ofValue command)
    | _ => []
  { dbPath := entry? "db_path", historyLimit := entry? "history_limit",
    logLevel := entry? "log_level", aliases }

/-- What a document says, if it is a mapping. -/
def ofDocument (d : Yaml.Document) : Sheet :=
  match d.entries? d.root with
  | none => {}
  | some entries =>
    let entry? (key : String) : Option Entry := (d.under? entries key).map (.ofDatum d)
    let aliases := ((d.under? entries "aliases").bind d.entries?).getD []
    { dbPath := entry? "db_path", historyLimit := entry? "history_limit",
      logLevel := entry? "log_level",
      aliases := aliases.map fun (word, command) => (.ofDatum d word, .ofDatum d command) }

/-- What the text of a file says. A file that is missing, malformed or no mapping says nothing. -/
def ofText (format : Format) (text : Option String) : Except Error Sheet :=
  match text with
  | none => .ok {}
  | some text =>
    match format.read text with
    | .ok (some d) => .ok (ofDocument d)
    | .ok none | .error .malformed => .ok {}
    | .error cause => .error (.file cause)

end Sheet

/-! ## Settings from a sheet -/

/-- The levels of logging. -/
def logLevels : List String := ["DEBUG", "INFO", "WARNING", "ERROR", "CRITICAL"]

/-- The level that a text names, letter case and blanks around it aside. -/
def levelNamed (text fallback : String) : String :=
  let level := Text.upper (Text.trim text)
  if logLevels.contains level then level else fallback

/-- The path of the store. -/
def dbPathOf (home : Home) (sheet : Sheet) : Except Error String :=
  match sheet.dbPath.filter Entry.isGiven with
  | none => .ok (Settings.dbPath {})
  | some entry => do
    let path := Path.ofText (← entry.text)
    if path.namesNull then throw .nullCharacter
    match path.expand? home with
    | some path => return path.text
    | none => throw .noHome

/-- The limit of the history: a positive whole number. -/
def historyLimitOf (sheet : Sheet) : Except Error Int :=
  match sheet.historyLimit.map Entry.whole with
  | some .infinite => .error .infiniteLimit
  | some (.some n) => .ok (if 0 < n then n else Settings.historyLimit {})
  | some .none | none => .ok (Settings.historyLimit {})

/-- The level of logging. -/
def logLevelOf (sheet : Sheet) : Except Error String :=
  match sheet.logLevel.filter Entry.isGiven with
  | some entry => do return levelNamed (← entry.text) (Settings.logLevel {})
  | none => .ok (Settings.logLevel {})

/-- The aliases: words in lower case, and their commands. Empty ones are left out. -/
def aliasesOf (sheet : Sheet) : Except Error (Entries String) := do
  let given := sheet.aliases.filter fun (word, command) => word.isGiven && command.isGiven
  return Entries.ofPairs (← given.mapM fun (word, command) => do
    return (Text.lower (← word.text), ← command.text))

/-- Settings from what a file says. -/
def ofSheet (home : Home) (sheet : Sheet) : Except Error Settings := do
  let dbPath ← dbPathOf home sheet
  let historyLimit ← historyLimitOf sheet
  let logLevel ← logLevelOf sheet
  return { dbPath, historyLimit, logLevel, aliases := ← aliasesOf sheet }

/-- Settings from the entries of a mapping. -/
def ofMapping (home : Home) (entries : List (Value × Value)) : Except Error Settings :=
  ofSheet home (.ofMapping entries)

/-- An environment variable, unless it is empty. -/
def envValue? (env : Environment) (name : String) : Option String :=
  (env.bindings.value? name).filter (· != "")

/-- Settings with those replaced that environment variables give. -/
def override (env : Environment) (s : Settings) : Settings :=
  { s with
    dbPath := (envValue? env "UNFOLD_DB").getD s.dbPath
    logLevel :=
      match envValue? env "UNFOLD_LOG_LEVEL" with
      | some level => levelNamed level s.logLevel
      | none => s.logLevel }

/-- Settings from the text of a file, if there is one, and the environment. -/
def load (env : Environment) (text : Option String) (format : Format := .yaml) :
    Except Error Settings := do
  let settings ← ofSheet env.home (← Sheet.ofText format text)
  return settings.override env

/-- The settings as fields, in the order in which they are written. -/
def fields (s : Settings) : Fields :=
  [("db_path", .text s.dbPath), ("history_limit", .int s.historyLimit),
   ("log_level", .text s.logLevel),
   ("aliases", Value.ofFields (s.aliases.map fun (word, command) => (word, .text command)))]

/-- The text of a file that holds the default settings with some fields replaced. -/
def fileText (changes : Fields) (format : Format := .yaml) : String :=
  format.write (Value.ofFields (Entries.overlay (fields {}) changes))

end Settings

end TaskShell
