import TaskShell.Number.Reader
import TaskShell.Text.Class
import TaskShell.Text.Hex
import TaskShell.Yaml.Scalar

/-!
# Tokens of a YAML text

Block structure is made explicit: the indentation of lines turns into tokens that open and close
block collections. A key without a `?` is recognised only at the `:` behind it, so the place of
every token that could be such a key is remembered until its line has ended.

No more of a text is read than has to be to know the next token, so that what is wrong further on
does not matter to whoever stops before it.

## Main definitions

* `Yaml.Token` — the tokens.
* `Yaml.Scanner` — the tokens that wait and what decides about the ones after them.
* `Yaml.Scanner.next?`, `Yaml.Scanner.drop` — the next token, and the scanner after it.
-/

set_option autoImplicit false

namespace TaskShell.Yaml

/-- Tokens. A `?` or an implied one is a `key`, a `:` a `value`, a `-` an `entry`. -/
inductive Token
  | versionDirective (major minor : Nat)
  | tagDirective (handle expansion : String)
  | otherDirective
  | documentStart
  | documentEnd
  | blockSequenceStart
  | blockMappingStart
  | blockEnd
  | flowSequenceStart
  | flowSequenceEnd
  | flowMappingStart
  | flowMappingEnd
  | entry
  | flowEntry
  | key
  | value
  | alias (name : String)
  | anchor (name : String)
  | tag (handle : Option String) (rest : String)
  | scalar (text : String) (plain : Bool)
  deriving DecidableEq, Repr

/-- A place where a key without a mark may have begun: its level of flow collections, the number
of tokens before it in the text, its position, and whether only a key can stand there. -/
structure KeyPlace where
  level : Int
  tokens : Nat
  index : Nat
  line : Nat
  column : Nat
  required : Bool
  deriving Repr

/-- The tokens that wait, the number of those taken, whether the text has ended, and what decides
about the next ones: the level of flow collections, the indentation of the block collections that
are open, whether a key may begin here, and where keys may have begun. -/
structure Scanner where
  cursor : Cursor
  waiting : List Token := []
  taken : Nat := 0
  isOver : Bool := false
  flow : Int := 0
  indent : Int := -1
  outer : List Int := []
  keyAllowed : Bool := true
  places : List KeyPlace := []

namespace Scanner

/-- The number of tokens found so far. -/
def count (s : Scanner) : Nat :=
  s.taken + s.waiting.length

/-- A token at the end. -/
def push (s : Scanner) (t : Token) : Scanner :=
  { s with waiting := s.waiting ++ [t] }

/-- A token at an earlier place. -/
def insert (s : Scanner) (place : Nat) (t : Token) : Scanner :=
  let n := place - s.taken
  { s with waiting := s.waiting.take n ++ t :: s.waiting.drop n }

/-- The cursor some characters further on. -/
def advance (s : Scanner) (n : Nat) : Scanner :=
  { s with cursor := s.cursor.advance n }

/-- The column of the next character. -/
def column (s : Scanner) : Int :=
  s.cursor.column

/-! ## Keys without a mark -/

/-- Places forgotten whose line has ended, or that lie too far back. -/
def forgetOld (s : Scanner) : Except Error Scanner :=
  let isOld (k : KeyPlace) : Bool :=
    k.line != s.cursor.line || s.cursor.index - k.index > 1024
  if s.places.any fun k => isOld k && k.required then .error .malformed
  else .ok { s with places := s.places.filter fun k => !isOld k }

/-- The place at the current level forgotten. -/
def forgetPlace (s : Scanner) : Except Error Scanner :=
  if s.places.any fun k => k.level == s.flow && k.required then .error .malformed
  else .ok { s with places := s.places.filter fun k => k.level != s.flow }

/-- The current place remembered, if a key may begin here. -/
def notePlace (s : Scanner) : Except Error Scanner :=
  if s.keyAllowed then do
    let required := s.flow == 0 && s.indent == s.column
    let s ← s.forgetPlace
    let c := s.cursor
    return { s with places :=
      ⟨s.flow, s.count, c.index, c.line, c.column, required⟩ :: s.places }
  else .ok s

/-! ## Indentation -/

/-- Block collections closed that lie deeper than a column. -/
def closeTo (s : Scanner) (column : Int) : List Int → Int → Scanner
  | outer, indent =>
    if s.flow != 0 || indent ≤ column then { s with indent, outer }
    else
      match outer with
      | [] => { s with indent, outer }
      | previous :: outer => (s.push .blockEnd).closeTo column outer previous

/-- Block collections closed that lie deeper than a column. -/
def unwind (s : Scanner) (column : Int) : Scanner :=
  s.closeTo column s.outer s.indent

/-- A block collection opened at a column, if it lies deeper than the open ones; its token is put
at a place. -/
def openBlock (s : Scanner) (column : Int) (place : Nat) (t : Token) : Scanner :=
  if s.indent < column then
    { s.insert place t with indent := column, outer := s.indent :: s.outer }
  else s

/-! ## The next token -/

/-- White space, comments and line ends passed over. A line end outside flow collections allows a
key. -/
def skipGap : Nat → Scanner → Scanner
  | 0, s => s
  | fuel + 1, s =>
    let c := s.cursor.skip (· == ' ')
    let c := if c.next = '#' then c.skip fun char => !isStop char else c
    match c.takeBreak with
    | (some _, c) => skipGap fuel { s with cursor := c, keyAllowed := s.keyAllowed || s.flow == 0 }
    | (none, c) => { s with cursor := c }

/-- The characters of anchors and of the names of directives and tag handles. -/
def isNameChar (c : Char) : Bool :=
  Text.isKey c

/-- The number of a version. -/
def takeVersionNumber (c : Cursor) : Except Error (Nat × Cursor) :=
  let digits := c.run Char.isDigit
  if digits.isEmpty then .error .malformed
  else if Number.digitLimit < digits.length then .error (.tooManyDigits digits.length)
  else
    .ok (Number.ofDigits (digits.map fun d => d.toNat - 48), c.advance digits.length)

/-- The handle of a tag: `!`, or a name between two of them. -/
def takeHandle (c : Cursor) : Except Error (String × Cursor) :=
  let name := c.step.run isNameChar
  let handle := '!' :: name
  let c' := c.advance handle.length
  if c.next != '!' then .error .malformed
  else if c'.next = '!' then .ok (String.ofList (handle ++ ['!']), c'.step)
  else if name.isEmpty && c'.next == ' ' then .ok ("!", c')
  else .error .malformed

/-- The characters of tags. -/
def isTagChar (c : Char) : Bool :=
  Text.isKey c || ";/?:@&=+$,.!~*'()[]".toList.contains c

/-- Bytes in hexadecimal, each after a percent sign. -/
def takeEscapedBytes : Nat → Cursor → Except Error (List UInt8 × Cursor)
  | 0, _ => .error .malformed
  | fuel + 1, c =>
    if c.next = '%' then do
      let some byte := Text.hexNumber? [c.ahead 1, c.ahead 2] | throw .malformed
      let (bytes, c) ← takeEscapedBytes fuel (c.advance 3)
      return (UInt8.ofNat byte :: bytes, c)
    else .ok ([], c)

/-- The runs of characters and of escapes of a tag. -/
def takeTagRuns : Nat → Cursor → Except Error (String × Cursor)
  | 0, _ => .error .malformed
  | fuel + 1, c =>
    let text := c.run isTagChar
    if !text.isEmpty then do
      let (rest, c) ← takeTagRuns fuel (c.advance text.length)
      return (String.ofList text ++ rest, c)
    else if c.next = '%' then do
      let (bytes, c) ← takeEscapedBytes (c.rest.length + 1) c
      let some text := String.fromUTF8? ⟨bytes.toArray⟩ | throw .malformed
      let (rest, c) ← takeTagRuns fuel c
      return (text ++ rest, c)
    else .ok ("", c)

/-- The text of a tag up to its end, which may not come at once. -/
def takeTagText (c : Cursor) : Except Error (String × Cursor) :=
  if isTagChar c.next || c.next == '%' then takeTagRuns (c.rest.length + 1) c
  else .error .malformed

/-- A directive: a version, a tag handle, or one that is passed over. -/
def takeDirective (s : Scanner) : Except Error Scanner := do
  let s ← (s.unwind (-1)).forgetPlace
  let s := { s.advance 1 with keyAllowed := false }
  let name := s.cursor.run isNameChar
  let s := s.advance name.length
  if name.isEmpty || !(s.cursor.next == ' ' || isStop s.cursor.next) then throw .malformed
  let (token, c) ←
    if name = "YAML".toList then do
      let (major, c) ← takeVersionNumber (s.cursor.skip (· == ' '))
      if c.next != '.' then throw .malformed
      let (minor, c) ← takeVersionNumber c.step
      if !(c.next == ' ' || isStop c.next) then throw .malformed
      pure (Token.versionDirective major minor, c)
    else if name = "TAG".toList then do
      let (handle, c) ← takeHandle (s.cursor.skip (· == ' '))
      if c.next != ' ' then throw .malformed
      let (expansion, c) ← takeTagText (c.skip (· == ' '))
      if !(c.next == ' ' || isStop c.next) then throw .malformed
      pure (Token.tagDirective handle expansion, c)
    else pure (Token.otherDirective, s.cursor.skip fun char => !isStop char)
  return { s.push token with cursor := ← skipComment c }

/-- A document marker. -/
def takeMarker (s : Scanner) (t : Token) : Except Error Scanner := do
  let s ← (s.unwind (-1)).forgetPlace
  return { (s.advance 3).push t with keyAllowed := false }

/-- The opening bracket of a flow collection. -/
def openFlow (s : Scanner) (t : Token) : Except Error Scanner := do
  let s ← s.notePlace
  return { (s.advance 1).push t with flow := s.flow + 1, keyAllowed := true }

/-- The closing bracket of a flow collection. -/
def closeFlow (s : Scanner) (t : Token) : Except Error Scanner := do
  let s ← s.forgetPlace
  return { (s.advance 1).push t with flow := s.flow - 1, keyAllowed := false }

/-- A comma between the entries of a flow collection. -/
def takeFlowEntry (s : Scanner) : Except Error Scanner := do
  let s ← s.forgetPlace
  return { (s.advance 1).push .flowEntry with keyAllowed := true }

/-- A dash before an entry of a block sequence. -/
def takeEntry (s : Scanner) : Except Error Scanner := do
  if s.flow == 0 && !s.keyAllowed then throw .malformed
  let s := if s.flow = 0 then s.openBlock s.column s.count .blockSequenceStart else s
  let s ← s.forgetPlace
  return { (s.advance 1).push .entry with keyAllowed := true }

/-- A question mark before a key. -/
def takeKey (s : Scanner) : Except Error Scanner := do
  if s.flow == 0 && !s.keyAllowed then throw .malformed
  let s := if s.flow = 0 then s.openBlock s.column s.count .blockMappingStart else s
  let s ← s.forgetPlace
  return { (s.advance 1).push .key with keyAllowed := s.flow == 0 }

/-- A colon before a value. If a key may have begun on this level, it has. -/
def takeValue (s : Scanner) : Except Error Scanner := do
  match s.places.find? fun k => k.level == s.flow with
  | some k =>
    let s := { s with places := s.places.filter fun k => k.level != s.flow }
    let s := s.insert k.tokens .key
    let s := if s.flow = 0 then s.openBlock k.column k.tokens .blockMappingStart else s
    return { (s.advance 1).push .value with keyAllowed := false }
  | none =>
    if s.flow == 0 && !s.keyAllowed then throw .malformed
    let s := if s.flow = 0 then s.openBlock s.column s.count .blockMappingStart else s
    let s ← s.forgetPlace
    return { (s.advance 1).push .value with keyAllowed := s.flow == 0 }

/-- The name of an anchor or an alias. -/
def takeName (s : Scanner) (t : String → Token) : Except Error Scanner := do
  let s ← s.notePlace
  let c := s.cursor.step
  let name := c.run isNameChar
  let c := c.advance name.length
  if name.isEmpty || !(isGap c.next || "?:,]\x7d%@\x60".toList.contains c.next) then
    throw .malformed
  return { s.push (t (String.ofList name)) with cursor := c, keyAllowed := false }

/-- A tag. -/
def takeTag (s : Scanner) : Except Error Scanner := do
  let s ← s.notePlace
  let c := s.cursor
  let (token, c) ←
    if c.ahead 1 = '<' then do
      let (text, c) ← takeTagText (c.advance 2)
      if c.next != '>' then throw .malformed
      pure (Token.tag none text, c.step)
    else if isGap (c.ahead 1) then pure (Token.tag none "!", c.step)
    else
      let word := c.step.run fun char => char != ' ' && !isStop char
      if word.contains '!' then do
        let (handle, c) ← takeHandle c
        let (text, c) ← takeTagText c
        pure (Token.tag (some handle) text, c)
      else do
        let (text, c) ← takeTagText c.step
        pure (Token.tag (some "!") text, c)
  if !(c.next == ' ' || isStop c.next) then throw .malformed
  return { s.push token with cursor := c, keyAllowed := false }

/-- A block scalar. -/
def takeBlockScalar (s : Scanner) (fold : Bool) : Except Error Scanner := do
  let s ← s.forgetPlace
  let (text, c) ← takeBlock fold s.indent s.cursor
  return { s.push (.scalar (String.ofList text) false) with cursor := c, keyAllowed := true }

/-- A quoted scalar. -/
def takeQuotedScalar (s : Scanner) (double : Bool) : Except Error Scanner := do
  let s ← s.notePlace
  let (text, c) ← takeQuoted double s.cursor
  return { s.push (.scalar (String.ofList text) false) with cursor := c, keyAllowed := false }

/-- A plain scalar. -/
def takePlainScalar (s : Scanner) : Except Error Scanner := do
  let s ← s.notePlace
  let (text, crossed, c) := takePlain (s.flow != 0) (s.indent + 1).toNat s.cursor
  return { s.push (.scalar (String.ofList text) true) with cursor := c, keyAllowed := crossed }

/-- Whether a plain scalar can begin at a cursor. -/
def startsPlain (inFlow : Bool) (c : Cursor) : Bool :=
  let char := c.next
  !(isGap char || "-?:,[]\x7b\x7d#&*!|>'\"%@\x60".toList.contains char) ||
    (!isGap (c.ahead 1) && (char == '-' || (!inFlow && (char == '?' || char == ':'))))

/-- The next token. -/
def takeToken (s : Scanner) : Except Error Scanner :=
  let c := s.cursor
  let inFlow := s.flow != 0
  let gapAfter := isGap (c.ahead 1)
  if c.column == 0 && c.next == '%' then s.takeDirective
  else if c.column == 0 && c.atMarker then
    s.takeMarker (if c.next = '-' then .documentStart else .documentEnd)
  else
    match c.next with
    | '[' => s.openFlow .flowSequenceStart
    | '\x7b' => s.openFlow .flowMappingStart
    | ']' => s.closeFlow .flowSequenceEnd
    | '\x7d' => s.closeFlow .flowMappingEnd
    | ',' => s.takeFlowEntry
    | '*' => s.takeName .alias
    | '&' => s.takeName .anchor
    | '!' => s.takeTag
    | '\'' => s.takeQuotedScalar false
    | '"' => s.takeQuotedScalar true
    | char =>
      if char == '-' && gapAfter then s.takeEntry
      else if char == '?' && (inFlow || gapAfter) then s.takeKey
      else if char == ':' && (inFlow || gapAfter) then s.takeValue
      else if char == '|' && !inFlow then s.takeBlockScalar false
      else if char == '>' && !inFlow then s.takeBlockScalar true
      else if startsPlain inFlow c then s.takePlainScalar
      else .error .malformed

/-- More tokens, or the end of the text. -/
def fetch (s : Scanner) : Except Error Scanner := do
  let s ← (skipGap (s.cursor.rest.length + 1) s).forgetOld
  let s := s.unwind s.column
  if s.cursor.next = theEnd then
    let s ← (s.unwind (-1)).forgetPlace
    return { s with isOver := true }
  else s.takeToken

/-- Whether more tokens are needed to know the next one: none waits, or a key may have begun at the
one that does. -/
def isShort (s : Scanner) : Bool :=
  s.waiting.isEmpty || s.places.any fun k => k.tokens == s.taken

/-- Tokens fetched until the next one is known. -/
def fill : Nat → Scanner → Except Error Scanner
  | 0, _ => .error .malformed
  | fuel + 1, s => do
    if s.isOver then return s
    let s ← if s.waiting.isEmpty then pure s else s.forgetOld
    if s.isShort then fill fuel (← s.fetch) else return s

/-- The next token, unless the text has ended, and the scanner that knows it. -/
def next? (s : Scanner) : Except Error (Option Token × Scanner) := do
  let s ← fill (s.cursor.rest.length + 2) s
  return (s.waiting.head?, s)

/-- The scanner after the next token, which has to be known. -/
def drop (s : Scanner) : Scanner :=
  { s with waiting := s.waiting.drop 1, taken := s.taken + 1 }

end Scanner

/-- A text without the mark of byte order at its start. -/
def dropByteOrderMark : List Char → List Char
  | '\uFEFF' :: cs => cs
  | cs => cs

/-- A scanner at the start of a text. -/
def Scanner.ofText (text : List Char) : Scanner :=
  { cursor := { rest := dropByteOrderMark text } }

end TaskShell.Yaml
