import TaskShell.Number.Shortest
import TaskShell.Text.Literal
import TaskShell.Value.Basic
import TaskShell.Yaml.Cursor
import TaskShell.Yaml.Plain

/-!
# Writing YAML texts

Values are written in block style. A scalar is written plain if it reads back as the same value,
else between single quotes, and between double quotes if it holds characters outside the printable
basic ones. Lines are folded at spaces beyond column 80.

## Main definitions

* `Yaml.Page` — the text written so far and the state of its last line.
* `Yaml.ScalarForm`, `Yaml.formOf` — how a text is written.
* `Yaml.write` — the text of a value.
-/

set_option autoImplicit false

namespace TaskShell.Yaml

/-- The text written so far, the column reached, whether a space or line start comes last, and
whether only indentation stands in the last line. -/
structure Page where
  text : List Char := []
  column : Nat := 0
  spaced : Bool := true
  indented : Bool := true

namespace Page

/-- Characters written as they are. -/
def put (p : Page) (cs : List Char) : Page :=
  { p with text := p.text ++ cs, column := p.column + cs.length }

/-- A line end. -/
def endLine (p : Page) (char : Char) : Page :=
  { text := p.text ++ [char], column := 0, spaced := true, indented := true }

/-- A new line with an indentation, unless the last line has just that. -/
def indent (p : Page) (width : Nat) : Page :=
  let p :=
    if !p.indented || width < p.column || (p.column == width && !p.spaced) then p.endLine '\n'
    else p
  if p.column < width then
    { p.put (List.replicate (width - p.column) ' ') with spaced := true }
  else p

/-- An indicator, with a space before it if one is needed. -/
def indicator (p : Page) (mark : String) (needsSpace : Bool) (indents : Bool := false) : Page :=
  let cs := mark.toList
  let cs := if p.spaced || !needsSpace then cs else ' ' :: cs
  { p.put cs with spaced := false, indented := p.indented && indents }

/-- The state inside a scalar. -/
def inside (p : Page) : Page :=
  { p with spaced := false, indented := false }

end Page

/-- The column beyond which lines are folded. -/
def bestWidth : Nat := 80

/-! ## Forms of scalars -/

/-- The forms of scalars. -/
inductive ScalarForm
  | plain
  | single
  | double
  deriving DecidableEq, Repr

/-- Whether a character and the one after it keep a text from being written plain in a block.
`before` is the character before it, if there is one. -/
def isIndicator (before : Option Char) (char after : Char) : Bool :=
  match before with
  | none =>
    "#,[]\x7b\x7d&*!|>'\"%@\x60".toList.contains char ||
      ("?:-".toList.contains char && isGap after)
  | some before => (char == ':' && isGap after) || (char == '#' && isGap before)

/-- Whether some character keeps a text from being written plain in a block. -/
def hasIndicators : Option Char → List Char → Bool
  | _, [] => false
  | before, char :: rest =>
    isIndicator before char (rest.headD theEnd) || hasIndicators (some char) rest

/-- Whether a character can be written outside double quotes. -/
def isBasic (char : Char) : Bool :=
  char == '\n' || (32 ≤ char.toNat && char.toNat ≤ 126)

/-- Whether a space and a line end touch, in the given order of classes. -/
def touches (p q : Char → Bool) : List Char → Bool
  | a :: b :: rest => (p a && q b) || touches p q (b :: rest)
  | _ => false

/-- Whether a text can be written plain in a block. -/
def allowsPlain (cs : List Char) : Bool :=
  let edge (char : Char) : Bool := char == ' ' || isBreak char
  cs.all (fun char => isBasic char && char != '\n') && !(cs.take 3 == "---".toList) &&
    !(cs.take 3 == "...".toList) && !hasIndicators none cs &&
    !(cs.head?.any edge) && !(cs.getLast?.any edge)

/-- Whether a text can be written between single quotes. -/
def allowsSingle (cs : List Char) : Bool :=
  cs.all isBasic && !touches isBreak (· == ' ') cs && !touches (· == ' ') isBreak cs

/-- The form of a text; as a key it may not contain line ends outside double quotes. -/
def formOf (isKey : Bool) (s : String) : ScalarForm :=
  let cs := s.toList
  if impliedTag s == .text && allowsPlain cs then .plain
  else if allowsSingle cs && !(isKey && cs.any isBreak) then .single
  else .double

/-! ## Scalars -/

/-- The first characters of a text up to one of a class. -/
def chunk (p : Char → Bool) (cs : List Char) : List Char :=
  cs.takeWhile fun char => !p char

/-- A plain text. Single spaces beyond the best width become line ends. -/
def putPlain (width : Nat) (split : Bool) : Nat → Page → List Char → Page
  | 0, p, _ => p
  | fuel + 1, p, cs =>
    match cs with
    | [] => p
    | ' ' :: rest =>
      let spaces := cs.takeWhile (· == ' ')
      let rest := rest.dropWhile (· == ' ')
      let p :=
        if spaces.length = 1 ∧ bestWidth < p.column ∧ split then (p.indent width).inside
        else p.put spaces
      putPlain width split fuel p rest
    | _ =>
      let word := chunk (· == ' ') cs
      putPlain width split fuel (p.put word) (cs.drop word.length)

/-- Line ends inside single quotes: one more than they stand for. -/
def putBreaks (width : Nat) (breaks : List Char) (p : Page) : Page :=
  let p := if breaks.head? = some '\n' then p.endLine '\n' else p
  (breaks.foldl (fun p char => p.endLine char) p).indent width

/-- A text between single quotes. `first` tells whether nothing of it has been written. -/
def putSingle (width : Nat) (split : Bool) : Nat → (first : Bool) → Page → List Char → Page
  | 0, _, p, _ => p
  | fuel + 1, first, p, cs =>
    match cs with
    | [] => p
    | '\'' :: rest => putSingle width split fuel false (p.put ['\'', '\'']) rest
    | ' ' :: rest =>
      let spaces := cs.takeWhile (· == ' ')
      let rest := rest.dropWhile (· == ' ')
      let p :=
        if spaces.length = 1 ∧ bestWidth < p.column ∧ split ∧ !first ∧ !rest.isEmpty then
          p.indent width
        else p.put spaces
      putSingle width split fuel false p rest
    | char :: _ =>
      if isBreak char then
        let breaks := cs.takeWhile isBreak
        putSingle width split fuel false (putBreaks width breaks p) (cs.drop breaks.length)
      else
        let word := chunk (fun char => char == ' ' || char == '\'' || isBreak char) cs
        putSingle width split fuel false (p.put word) (cs.drop word.length)

/-- The letter of a one-letter escape. -/
def escapeLetter? : Char → Option Char
  | '\x00' => some '0'
  | '\x07' => some 'a'
  | '\x08' => some 'b'
  | '\t' => some 't'
  | '\n' => some 'n'
  | '\x0b' => some 'v'
  | '\x0c' => some 'f'
  | '\r' => some 'r'
  | '\x1b' => some 'e'
  | '"' => some '"'
  | '\\' => some '\\'
  | '\u0085' => some 'N'
  | '\u00a0' => some '_'
  | '\u2028' => some 'L'
  | '\u2029' => some 'P'
  | _ => none

/-- A number in upper-case hexadecimal with at least `width` digits. -/
def upperHex (width n : Nat) : List Char :=
  (Text.hexDigits width n).map fun c => if 'a' ≤ c ∧ c ≤ 'f' then Char.ofNat (c.toNat - 32) else c

/-- A character inside double quotes, if it cannot stand there as it is. -/
def escaped? (char : Char) : Option (List Char) :=
  match escapeLetter? char with
  | some letter => some ['\\', letter]
  | none =>
    if 32 ≤ char.toNat ∧ char.toNat ≤ 126 then none
    else if char.toNat < 256 then some ('\\' :: 'x' :: upperHex 2 char.toNat)
    else if char.toNat < 65536 then some ('\\' :: 'u' :: upperHex 4 char.toNat)
    else some ('\\' :: 'U' :: upperHex 8 char.toNat)

/-- A line folded inside double quotes: a backslash ends it. -/
def foldDouble (width : Nat) (p : Page) : Page :=
  ((p.put ['\\']).indent width).inside

/-- A text between double quotes. `waiting` are characters that have been passed but not written,
`index` and `last` the positions of the next and of the last character. A line is folded before a
space, which a backslash then keeps, or beside an escape. -/
def putDouble (width : Nat) (split : Bool) (last : Nat) :
    (waiting : List Char) → (index : Nat) → Page → List Char → Page
  | waiting, _, p, [] => p.put waiting
  | waiting, index, p, char :: rest =>
    let inner := split && 0 < index && index < last
    let keep (space : Bool) (p : Page) : Page := if space then p.put ['\\'] else p
    match escaped? char with
    | some escape =>
      let p := (p.put waiting).put escape
      let p :=
        if inner && bestWidth + 1 < p.column then
          keep (rest.head? == some ' ') (foldDouble width p)
        else p
      putDouble width split last [] (index + 1) p rest
    | none =>
      if inner && (char == ' ' || waiting.isEmpty) && bestWidth < p.column + waiting.length then
        let p := keep (char == ' ') (foldDouble width (p.put waiting))
        putDouble width split last [char] (index + 1) p rest
      else putDouble width split last (waiting ++ [char]) (index + 1) p rest

/-- A text as a scalar. Keys are never folded. -/
def putText (width : Nat) (isKey : Bool) (p : Page) (s : String) : Page :=
  let cs := s.toList
  match formOf isKey s with
  | .plain =>
    let p := (if p.spaced then p else p.put [' ']).inside
    putPlain width (!isKey) (cs.length + 1) p cs
  | .single =>
    (putSingle width (!isKey) (cs.length + 1) true (p.indicator "'" true) cs).indicator "'" false
  | .double =>
    (putDouble width (!isKey) (cs.length - 1) [] 0 (p.indicator "\"" true) cs).indicator "\"" false

/-- The text of a floating-point number; the exponent form keeps a point. -/
def floatText (x : Binary64) : String :=
  match x with
  | .nan => ".nan"
  | .infinite negative => if negative then "-.inf" else ".inf"
  | x =>
    let text := x.text.toList
    let head := text.takeWhile (· != 'e')
    let tail := text.dropWhile (· != 'e')
    if tail.isEmpty || head.contains '.' then x.text
    else String.ofList (head ++ ".0".toList ++ tail)

/-- A word as a plain scalar. -/
def putWord (p : Page) (word : String) : Page :=
  ((if p.spaced then p else p.put [' ']).inside).put word.toList

/-- A scalar; collections are empty here. -/
def putScalar (width : Nat) (isKey : Bool) (p : Page) : Value → Page
  | .null => putWord p "null"
  | .bool value => putWord p (if value then "true" else "false")
  | .int n => putWord p (toString n)
  | .float x => putWord p (floatText x)
  | .text s => putText width isKey p s
  | .list _ => p.indicator "[]" true
  | .map _ => p.indicator "\x7b\x7d" true

/-! ## Collections -/

/-- Whether a key is short and simple enough to stand before its colon in one line. -/
def isSimpleKey : Value → Bool
  | .text s => s.length + 5 < 128 && s != "" && !s.toList.any isBreak
  | .list items => items.isEmpty
  | .map entries => entries.isEmpty
  | _ => true

mutual

/-- A value at an indentation; `inMapping` tells whether it follows a key. -/
def putValue (level : Nat) (inMapping : Bool) (p : Page) : Value → Page
  | .list (item :: items) =>
    let level := if inMapping && !p.indented then level else level + 2
    putItems level p (item :: items)
  | .map (entry :: entries) => putEntries (level + 2) p (entry :: entries)
  | value => putScalar (level + 2) false p value

/-- The items of a list. -/
def putItems (level : Nat) (p : Page) : List Value → Page
  | [] => p
  | item :: items =>
    let p := (p.indent level).indicator "-" true true
    putItems level (putValue level false p item) items

/-- The entries of a map. -/
def putEntries (level : Nat) (p : Page) : List (Value × Value) → Page
  | [] => p
  | (key, value) :: entries =>
    let p := p.indent level
    if isSimpleKey key then
      let p := (putScalar (level + 2) true p key).indicator ":" false
      putEntries level (putValue level true p value) entries
    else
      let p := putValue level true (p.indicator "?" true true) key
      let p := (p.indent level).indicator ":" true true
      putEntries level (putValue level true p value) entries

end

/-- The text of a value. -/
def write (value : Value) : String :=
  let page :=
    match value with
    | .map (entry :: entries) => putEntries 0 {} (entry :: entries)
    | .list (item :: items) => putItems 0 {} (item :: items)
    | value => putScalar 2 false {} value
  String.ofList (page.indent 0).text

end TaskShell.Yaml
