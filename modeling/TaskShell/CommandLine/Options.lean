import TaskShell.Text.Words

/-!
# Options of the program

The arguments of the program: options first, then the words of a command. The first argument that
is no option begins the command, and everything after it belongs to it. Long options may be
shortened as long as one name is left that they can mean, and `--name=value` gives a value in the
same argument; one-letter options can share an argument, in which nothing else may stand.

All arguments up to a `--` are looked at before any is used, so an ambiguous one is refused
wherever it stands, and the value of an option is an argument that does not look like an option.

## Main definitions

* `Switch` — the options.
* `Argument.read` — what an argument looks like on its own.
* `Options` — what the options say.
* `Request.ofArguments` — what the arguments ask for.
-/

set_option autoImplicit false

namespace TaskShell

/-! ## Switches -/

/-- The options of the program. -/
inductive Switch
  | help
  | db
  | config
  | verbose
  | version
  deriving DecidableEq, Repr, Inhabited

namespace Switch

/-- All options. -/
def all : List Switch := [.help, .db, .config, .verbose, .version]

/-- The long name of an option. No name begins another. -/
def name : Switch → String
  | .help => "help"
  | .db => "db"
  | .config => "config"
  | .verbose => "verbose"
  | .version => "version"

/-- The option with a letter. -/
def ofLetter? : Char → Option Switch
  | 'h' => some .help
  | 'v' => some .verbose
  | _ => none

/-- Whether an option needs a value. -/
def takesValue : Switch → Bool
  | .db | .config => true
  | .help | .verbose | .version => false

/-- The options whose names begin with a text. -/
def startingWith (cs : List Char) : List Switch :=
  all.filter fun s => cs.isPrefixOf s.name.toList

end Switch

/-! ## Arguments on their own -/

/-- What an argument looks like: a word, the mark after which all are words, a long option that
may bring its value, the letter of an option with what follows it, or an option that is not
known. -/
inductive Argument
  | word
  | separator
  | long (switch : Switch) (value : Option String)
  | letters (first : Switch) (others : List Char)
  | unknown
  deriving DecidableEq, Repr

/-- How arguments can be wrong. -/
inductive Misuse
  | ambiguous (argument : String) (candidates : List Switch)
  | missingValue (switch : Switch)
  | unexpectedValue (switch : Switch) (value : String)
  | unknown (arguments : List String)
  deriving DecidableEq, Repr

/-- What the user is told. -/
def Misuse.message : Misuse → String
  | .ambiguous argument candidates =>
    "ambiguous option: " ++ argument ++ " could match " ++
      Text.join ", " (candidates.map fun s => "--" ++ s.name)
  | .missingValue s => "argument --" ++ s.name ++ ": expected one argument"
  | .unexpectedValue s value =>
    "argument --" ++ s.name ++ ": ignored explicit argument '" ++ value ++ "'"
  | .unknown arguments => "unrecognized arguments: " ++ Text.join " " arguments

namespace Argument

/-- Whether a text is all digits, and has at least one. -/
def isDigits (cs : List Char) : Bool :=
  !cs.isEmpty && cs.all fun c => (Text.digit? c).isSome

/-- Whether a text after a minus sign reads as a number: digits, or a point with digits behind it.
A line end may follow. -/
def isNumber (cs : List Char) : Bool :=
  let cs := if cs.getLast? = some '\n' then cs.dropLast else cs
  isDigits cs ||
    match cs.dropWhile fun c => (Text.digit? c).isSome with
    | '.' :: fraction => isDigits fraction
    | _ => false

/-- What an argument after a dash is if no option has its name: negative numbers and texts with a
space are words. -/
def unnamed (cs : List Char) : Argument :=
  if isNumber cs || cs.contains ' ' then .word else .unknown

/-- The name of a long option, and its value if one follows. -/
def splitValue (cs : List Char) : List Char × Option String :=
  match cs.dropWhile (· != '=') with
  | '=' :: value => (cs.takeWhile (· != '='), some (String.ofList value))
  | _ => (cs, none)

/-- What an argument looks like. -/
def read (text : String) : Except Misuse Argument :=
  match text.toList with
  | ['-', '-'] => .ok .separator
  | '-' :: '-' :: cs =>
    let (name, value) := splitValue cs
    match Switch.startingWith name with
    | [] => .ok (unnamed ('-' :: cs))
    | [s] => .ok (.long s value)
    | candidates => .error (.ambiguous text candidates)
  | '-' :: c :: cs =>
    match Switch.ofLetter? c with
    | some first => .ok (.letters first cs)
    | none => .ok (unnamed (c :: cs))
  | _ => .ok .word

/-- Arguments with what they look like. After a separator all are words. -/
def readAll : List String → Except Misuse (List (String × Argument))
  | [] => .ok []
  | text :: rest => do
    let argument ← read text
    if argument = .separator then
      return (text, argument) :: rest.map fun word => (word, .word)
    else
      return (text, argument) :: (← readAll rest)

end Argument

/-! ## Arguments in turn -/

/-- What the options say, and the words of the command. -/
structure Options where
  db : Option String := none
  config : Option String := none
  verbose : Bool := false
  words : List String := []
  deriving DecidableEq, Repr, Inhabited

/-- What arguments ask for. -/
inductive Request
  | help
  | version
  | run (options : Options)
  deriving DecidableEq, Repr

namespace Options

/-- An option with its value. -/
def set (o : Options) (s : Switch) (value : String) : Options :=
  match s with
  | .db => { o with db := some value }
  | .config => { o with config := some value }
  | .help | .verbose | .version => o

/-- The options that letters after an option stand for. A letter without an option is a value for
the option before it, which takes none. -/
def ofCluster (s : Switch) : List Char → Except Misuse (List Switch)
  | [] => .ok [s]
  | c :: cs =>
    match Switch.ofLetter? c with
    | some next => do return s :: (← ofCluster next cs)
    | none => .error (.unexpectedValue s (String.ofList (c :: cs)))

/-- The options that letters stand for. After the first one a `=` may stand, with letters behind
it. -/
def ofLetters (s : Switch) : List Char → Except Misuse (List Switch)
  | ['='] => .error (.unexpectedValue s "")
  | '=' :: cs => ofCluster s cs
  | cs => ofCluster s cs

/-- What arguments ask for once options have been met and some arguments were not known. -/
def consume (o : Options) (unknown : List String) :
    List (String × Argument) → Except Misuse Request
  | [] => if unknown.isEmpty then .ok (.run o) else .error (.unknown unknown)
  | (text, .word) :: rest | (text, .separator) :: rest =>
    if unknown.isEmpty then .ok (.run { o with words := text :: rest.map Prod.fst })
    else .error (.unknown unknown)
  | (text, .unknown) :: rest => consume o (unknown ++ [text]) rest
  | (_, .letters first others) :: rest =>
    match ofLetters first others with
    | .error e => .error e
    | .ok switches =>
      if switches.contains .help then .ok .help else consume { o with verbose := true } unknown rest
  | (_, .long .help none) :: _ => .ok .help
  | (_, .long .version none) :: _ => .ok .version
  | (_, .long .verbose none) :: rest => consume { o with verbose := true } unknown rest
  | (_, .long s (some value)) :: rest =>
    if s.takesValue then consume (o.set s value) unknown rest
    else .error (.unexpectedValue s value)
  | (_, .long s none) :: (value, .word) :: rest => consume (o.set s value) unknown rest
  | (_, .long s none) :: _ => .error (.missingValue s)

end Options

/-- What arguments ask for. -/
def Request.ofArguments (arguments : List String) : Except Misuse Request := do
  Options.consume {} [] (← Argument.readAll arguments)

end TaskShell
