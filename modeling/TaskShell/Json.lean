import TaskShell.Number.Reader
import TaskShell.Number.Shortest
import TaskShell.Text.Literal
import TaskShell.Value.Basic

/-!
# Values as JSON text

The text form in which values are exchanged and kept in files. A number with a fraction or an
exponent is a floating-point number, and so are the names of the infinities and of not-a-number;
any other number is an integer. The order of the keys of an object is kept, and a repeated key keeps
its first place and takes its last value.

## Main definitions

* `Json.parse?` — the value that a text denotes.
* `Json.render` — the text of a value.
* `Json.fault?` — what keeps a value from being written: a whole number with too many digits, more
  levels than the call stack has `Room` for, or a key that no text can stand for.
-/

set_option autoImplicit false

namespace TaskShell.Json

/-! ## Reading -/

/-- The text after white space. -/
def skipSpace (cs : List Char) : List Char :=
  cs.dropWhile fun c => c == ' ' || c == '\n' || c == '\r' || c == '\t'

/-- The character behind a one-letter escape. -/
def shortEscape? : Char → Option Char
  | '"' => some '"'
  | '\\' => some '\\'
  | '/' => some '/'
  | 'b' => some '\x08'
  | 'f' => some '\x0c'
  | 'n' => some '\n'
  | 'r' => some '\r'
  | 't' => some '\t'
  | _ => none

/-- A unit of sixteen bits that is escaped at the start of a text, and the rest. -/
def takeUnit? : List Char → Option (Nat × List Char)
  | '\\' :: 'u' :: a :: b :: c :: d :: rest => (Text.hexNumber? [a, b, c, d]).map (·, rest)
  | _ => none

/-- A second surrogate that is escaped at the start of a text, and the rest. -/
def takeSecond? (cs : List Char) : Option (Nat × List Char) :=
  (takeUnit? cs).filter fun (unit, _) => 0xDC00 ≤ unit && unit < 0xE000

/-- The character that is escaped by its units at the start of a text, and the rest. Two surrogates
in a row are one character. -/
def takeCode? (cs : List Char) : Option (Char × List Char) := do
  let (unit, rest) ← takeUnit? cs
  if 0xD800 ≤ unit ∧ unit < 0xDC00 then
    match takeSecond? rest with
    | some (second, rest) =>
      return (Char.ofNat (0x10000 + (unit - 0xD800) * 0x400 + (second - 0xDC00)), rest)
    | none => return (Char.ofNat unit, rest)
  else return (Char.ofNat unit, rest)

/-- The first character of a text, and the rest. Controls are escaped. -/
def takeChar? : List Char → Option (Char × List Char)
  | '\\' :: 'u' :: rest => takeCode? ('\\' :: 'u' :: rest)
  | '\\' :: letter :: rest => (shortEscape? letter).map (·, rest)
  | c :: rest => if c.toNat < 32 then none else some (c, rest)
  | [] => none

/-- The characters of a text up to its closing quote, and the rest. -/
def takeText? (fuel : Nat) (cs : List Char) : Option (List Char × List Char) :=
  match fuel with
  | 0 => none
  | fuel + 1 =>
    match cs with
    | '"' :: rest => some ([], rest)
    | cs => do
      let (c, rest) ← takeChar? cs
      let (text, rest) ← takeText? fuel rest
      return (c :: text, rest)

/-- The names of the numbers that have no digits. -/
def namedNumbers : List (String × Binary64) :=
  [("NaN", .nan), ("Infinity", .infinite false), ("-Infinity", .infinite true)]

/-- A number that is named at the start of a text, and the rest. -/
def takeNamed? (cs : List Char) : Option (Value × List Char) :=
  (namedNumbers.find? fun (name, _) => name.toList.isPrefixOf cs).map fun (name, x) =>
    (.float x, cs.drop name.length)

/-- The number that a run of numeric characters spells. -/
def number? (cs : List Char) : Option Value :=
  let s := String.ofList cs
  if cs.any fun c => c == '.' || c == 'e' || c == 'E' then (Number.readFloat? s).map .float
  else (Number.readInt? s).map .int

mutual

/-- A value at the start of a text, and the rest. -/
def takeValue? (fuel : Nat) (cs : List Char) : Option (Value × List Char) :=
  match fuel with
  | 0 => none
  | fuel + 1 =>
    match skipSpace cs with
    | '"' :: rest => do
      let (text, rest) ← takeText? (rest.length + 1) rest
      return (.text (String.ofList text), rest)
    | '[' :: rest => do
      match skipSpace rest with
      | ']' :: rest => return (.list [], rest)
      | rest =>
        let (items, rest) ← takeItems? fuel rest
        return (.list items, rest)
    | '\x7b' :: rest => do
      match skipSpace rest with
      | '\x7d' :: rest => return (.map [], rest)
      | rest =>
        let (pairs, rest) ← takePairs? fuel rest
        return (.ofFields (Entries.ofPairs pairs), rest)
    | 't' :: 'r' :: 'u' :: 'e' :: rest => some (.bool true, rest)
    | 'f' :: 'a' :: 'l' :: 's' :: 'e' :: rest => some (.bool false, rest)
    | 'n' :: 'u' :: 'l' :: 'l' :: rest => some (.null, rest)
    | rest =>
      match takeNamed? rest with
      | some named => some named
      | none => do
        let value ← number? (rest.takeWhile Number.isNumeric)
        return (value, rest.dropWhile Number.isNumeric)

/-- The items of a list up to its closing bracket, and the rest. -/
def takeItems? (fuel : Nat) (cs : List Char) : Option (List Value × List Char) :=
  match fuel with
  | 0 => none
  | fuel + 1 => do
    let (item, rest) ← takeValue? fuel cs
    match skipSpace rest with
    | ',' :: rest =>
      let (items, rest) ← takeItems? fuel rest
      return (item :: items, rest)
    | ']' :: rest => return ([item], rest)
    | _ => none

/-- The pairs of an object up to its closing brace, and the rest. -/
def takePairs? (fuel : Nat) (cs : List Char) : Option (List (String × Value) × List Char) :=
  match fuel with
  | 0 => none
  | fuel + 1 =>
    match skipSpace cs with
    | '"' :: rest => do
      let (key, rest) ← takeText? (rest.length + 1) rest
      match skipSpace rest with
      | ':' :: rest =>
        let (value, rest) ← takeValue? fuel rest
        match skipSpace rest with
        | ',' :: rest =>
          let (pairs, rest) ← takePairs? fuel rest
          return ((String.ofList key, value) :: pairs, rest)
        | '\x7d' :: rest => return ([(String.ofList key, value)], rest)
        | _ => none
      | _ => none
    | _ => none

end

/-- The value that a text denotes. -/
def parse? (s : String) : Option Value :=
  let cs := s.toList
  match takeValue? (cs.length + 1) cs with
  | some (value, rest) => if (skipSpace rest).isEmpty then some value else none
  | none => none

/-! ## Writing -/

/-- The letter of the short escape of a character. -/
def shortLetter? : Char → Option Char
  | '"' => some '"'
  | '\\' => some '\\'
  | '\x08' => some 'b'
  | '\x0c' => some 'f'
  | '\n' => some 'n'
  | '\r' => some 'r'
  | '\t' => some 't'
  | _ => none

/-- A unit of sixteen bits as an escape. -/
def unitEscape (unit : Nat) : List Char :=
  '\\' :: 'u' :: Text.hexDigits 4 unit

/-- A character inside a text. All but the printable basic characters are escaped, those beyond
sixteen bits as two surrogates. -/
def writeChar (c : Char) : List Char :=
  match shortLetter? c with
  | some letter => ['\\', letter]
  | none =>
    if ' ' ≤ c ∧ c ≤ '~' then [c]
    else if c.toNat < 0x10000 then unitEscape c.toNat
    else
      let code := c.toNat - 0x10000
      unitEscape (0xD800 + code / 0x400) ++ unitEscape (0xDC00 + code % 0x400)

/-- A text between quotes. -/
def writeText (s : String) : List Char :=
  '"' :: s.toList.flatMap writeChar ++ ['"']

/-- A floating-point number: its name, or its digits. -/
def writeFloat (x : Binary64) : List Char :=
  match namedNumbers.find? fun (_, named) => named == x with
  | some (name, _) => name.toList
  | none => x.text.toList

mutual

/-- The characters of a value. Keys that are not texts are written as the text of their value. -/
def write : Value → List Char
  | .null => "null".toList
  | .bool true => "true".toList
  | .bool false => "false".toList
  | .int value => (toString value).toList
  | .float value => writeFloat value
  | .text value => writeText value
  | .list items => '[' :: [','].intercalate (writeItems items) ++ [']']
  | .map entries => '\x7b' :: [','].intercalate (writePairs entries) ++ ['\x7d']

/-- The characters of each item. -/
def writeItems : List Value → List (List Char)
  | [] => []
  | item :: items => write item :: writeItems items

/-- The characters of each pair. -/
def writePairs : List (Value × Value) → List (List Char)
  | [] => []
  | (.text key, value) :: pairs => (writeText key ++ ':' :: write value) :: writePairs pairs
  | (key, value) :: pairs =>
    (writeText (String.ofList (write key)) ++ ':' :: write value) :: writePairs pairs

end

/-- The text of a value. -/
def render (v : Value) : String :=
  String.ofList (write v)

/-! ## What cannot be written -/

/-- How many levels deep a value may nest to be written: what the call stack has room for, which is
at least a map that holds a list. -/
structure Room where
  levels : Nat
  two_le : 2 ≤ levels

/-- What the calls of the program itself leave of a stack of a thousand. -/
def Room.standard : Room :=
  ⟨960, by decide⟩

/-- What keeps a value from being written. -/
inductive Fault
  | longInteger
  | tooDeep
  | badKey (typeName : String)
  deriving DecidableEq, Repr

/-- What the user is told. -/
def Fault.message : Fault → String
  | .longInteger =>
    "Exceeds the limit (" ++ toString Number.digitLimit ++
      " digits) for integer string conversion; use sys.set_int_max_str_digits() to increase the limit"
  | .tooDeep => "maximum recursion depth exceeded while encoding a JSON object"
  | .badKey typeName => "keys must be str, int, float, bool or None, not " ++ typeName

/-- What keeps a whole number from being written: more digits than the limit. -/
def intFault? (n : Int) : Option Fault :=
  if n.natAbs < Number.tenTo Number.digitLimit then none else some .longInteger

/-- What keeps a key from being written. -/
def keyFault? : Value → Option Fault
  | .int n => intFault? n
  | .list _ => some (.badKey "list")
  | .map _ => some (.badKey "dict")
  | _ => none

mutual

/-- The first thing that keeps a value from being written where so many levels are left. -/
def fault? (levels : Nat) : Value → Option Fault
  | .int n => intFault? n
  | .list items =>
    match levels with
    | 0 => some .tooDeep
    | levels + 1 => itemsFault? levels items
  | .map entries =>
    match levels with
    | 0 => some .tooDeep
    | levels + 1 => pairsFault? levels entries
  | _ => none

/-- The first thing that keeps items from being written. -/
def itemsFault? (levels : Nat) : List Value → Option Fault
  | [] => none
  | item :: items => (fault? levels item).or (itemsFault? levels items)

/-- The first thing that keeps pairs from being written: of a pair, the key comes first. -/
def pairsFault? (levels : Nat) : List (Value × Value) → Option Fault
  | [] => none
  | (key, value) :: pairs =>
    (keyFault? key).or ((fault? levels value).or (pairsFault? levels pairs))

end

end TaskShell.Json
