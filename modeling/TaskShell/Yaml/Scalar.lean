import TaskShell.Text.Hex
import TaskShell.Yaml.Cursor

/-!
# Scalars of a YAML text

The four ways to write a scalar: plain, between single quotes, between double quotes, and as an
indented block. Each reader takes the scalar at a cursor and answers with its text and the cursor
after it.

## Main definitions

* `Yaml.takePlain` — a plain scalar, which may run over several lines.
* `Yaml.takeQuoted` — a scalar between quotes.
* `Yaml.takeBlock` — a literal or folded block.
-/

set_option autoImplicit false

namespace TaskShell.Yaml

/-- The line end and the empty lines after it as they count in a scalar that is folded: one line
end alone is a space. -/
def folded (first : Char) (breaks : List Char) : List Char :=
  if first != '\n' then first :: breaks
  else if breaks.isEmpty then [' ']
  else breaks

/-! ## Plain scalars -/

/-- Whether a plain scalar goes on with the next character. -/
def continuesPlain (inFlow : Bool) (char after : Char) : Bool :=
  !(isGap char || (char == ':' && (isGap after || (inFlow && ",[]\x7b\x7d".toList.contains after))) ||
    (inFlow && ",?[]\x7b\x7d".toList.contains char))

/-- The characters of a plain scalar up to a gap or an indicator. -/
def plainRun (inFlow : Bool) : List Char → List Char
  | [] => []
  | char :: rest =>
    if continuesPlain inFlow char (rest.headD theEnd) then char :: plainRun inFlow rest else []

/-- The line ends among the lines after a line of a plain scalar, unless a document marker ends
them. -/
def plainBreaks : Nat → Cursor → Option (List Char) × Cursor
  | 0, c => (some [], c)
  | fuel + 1, c =>
    if c.next = ' ' then plainBreaks fuel c.step
    else
      match c.takeBreak with
      | (some char, c) =>
        if c.atMarker then (none, c)
        else
          let (breaks, c) := plainBreaks fuel c
          (breaks.map (char :: ·), c)
      | (none, c) => (some [], c)

/-- What stands between two runs of a plain scalar, whether it crosses a line end, and the cursor
after it. -/
def plainGap (fuel : Nat) (c : Cursor) : List Char × Bool × Cursor :=
  let spaces := c.run (· == ' ')
  let c := c.advance spaces.length
  match c.takeBreak with
  | (some char, c) =>
    if c.atMarker then ([], true, c)
    else
      match plainBreaks fuel c with
      | (some breaks, c) => (folded char breaks, true, c)
      | (none, c) => ([], true, c)
  | (none, c) => (spaces, false, c)

/-- The runs of a plain scalar after a gap. Answers also whether the scalar was followed or
crossed by a line end after its last run. -/
def takePlainRuns (inFlow : Bool) (indent : Nat) :
    Nat → (gap : List Char) → (crossed : Bool) → Cursor → List Char × Bool × Cursor
  | 0, _, crossed, c => ([], crossed, c)
  | fuel + 1, gap, crossed, c =>
    if c.next = '#' then ([], crossed, c)
    else
      let run := plainRun inFlow c.rest
      if run.isEmpty then ([], crossed, c)
      else
        let (gap', crossed, c) := plainGap fuel (c.advance run.length)
        if gap'.isEmpty || c.next == '#' || (!inFlow && c.column < indent) then
          (gap ++ run, crossed, c)
        else
          let (text, crossed, c) := takePlainRuns inFlow indent fuel gap' crossed c
          (gap ++ run ++ text, crossed, c)

/-- A plain scalar, and whether a line end came after its last run. -/
def takePlain (inFlow : Bool) (indent : Nat) (c : Cursor) : List Char × Bool × Cursor :=
  takePlainRuns inFlow indent (c.rest.length + 1) [] false c

/-! ## Quoted scalars -/

/-- The character behind a one-letter escape. -/
def escape? : Char → Option Char
  | '0' => some '\x00'
  | 'a' => some '\x07'
  | 'b' => some '\x08'
  | 't' | '\t' => some '\t'
  | 'n' => some '\n'
  | 'v' => some '\x0b'
  | 'f' => some '\x0c'
  | 'r' => some '\r'
  | 'e' => some '\x1b'
  | ' ' => some ' '
  | '"' => some '"'
  | '\\' => some '\\'
  | '/' => some '/'
  | 'N' => some '\u0085'
  | '_' => some '\u00a0'
  | 'L' => some '\u2028'
  | 'P' => some '\u2029'
  | _ => none

/-- The number of digits of an escape by code point. -/
def escapeWidth? : Char → Option Nat
  | 'x' => some 2
  | 'u' => some 4
  | 'U' => some 8
  | _ => none

/-- The line ends and leading blanks of the lines inside a quoted scalar. -/
def quotedBreaks : Nat → Cursor → Except Error (List Char × Cursor)
  | 0, _ => .error .malformed
  | fuel + 1, c =>
    if c.atMarker then .error .malformed
    else
      match (c.skip fun char => char == ' ' || char == '\t').takeBreak with
      | (some char, c) => do
        let (breaks, c) ← quotedBreaks fuel c
        return (char :: breaks, c)
      | (none, c) => return ([], c)

/-- Whether a character stands for itself inside quotes. -/
def isQuotable (char : Char) : Bool :=
  !(char == '\'' || char == '"' || char == '\\' || isGap char)

/-- Whether a code point is the first half of a pair, which stands for one character. -/
def isFirstHalf (code : Nat) : Bool :=
  0xD800 ≤ code && code < 0xDC00

/-- The second half of a pair, if its escape comes next. -/
def secondHalf? : List Char → Option Nat
  | '\\' :: 'u' :: a :: b :: c :: d :: _ =>
    (Text.hexNumber? [a, b, c, d]).filter fun code => 0xDC00 ≤ code && code < 0xE000
  | _ => none

/-- The character of a code point, and the cursor after it. Two escapes in a row can be the halves
of a pair; a half on its own has no character and is replaced. -/
def takeCodePoint (code : Nat) (c : Cursor) : List Char × Cursor :=
  match isFirstHalf code, secondHalf? c.rest with
  | true, some second =>
    ([Char.ofNat (0x10000 + 0x400 * (code - 0xD800) + (second - 0xDC00))], c.advance 6)
  | _, _ => ([if 0xD800 ≤ code ∧ code < 0xE000 then '\uFFFD' else Char.ofNat code], c)

/-- An escape after its backslash. -/
def takeEscape (fuel : Nat) (c : Cursor) : Except Error (List Char × Cursor) :=
  match escape? c.next with
  | some char => .ok ([char], c.step)
  | none =>
    match escapeWidth? c.next with
    | some width =>
      let digits := c.step.rest.take width
      match Text.hexNumber? digits with
      | some code =>
        if digits.length < width then .error .malformed
        else if 0x10FFFF < code then .error (.codePoint code)
        else .ok (takeCodePoint code (c.step.advance width))
      | none => .error .malformed
    | none =>
      match c.takeBreak with
      | (some _, c) => quotedBreaks fuel c
      | (none, _) => .error .malformed

/-- A quoted scalar after its opening quote, up to and including the closing one. -/
def takeQuotedRest (double : Bool) : Nat → Cursor → Except Error (List Char × Cursor)
  | 0, _ => .error .malformed
  | fuel + 1, c =>
    let quote := if double then '"' else '\''
    let char := c.next
    let glue (part : List Char) (c : Cursor) : Except Error (List Char × Cursor) := do
      let (text, c) ← takeQuotedRest double fuel c
      return (part ++ text, c)
    if isQuotable char then
      let run := c.run isQuotable
      glue run (c.advance run.length)
    else if !double && char == '\'' && c.ahead 1 == '\'' then glue ['\''] (c.advance 2)
    else if char = quote then .ok ([], c.step)
    else if double && char == '\\' then do
      let (part, c) ← takeEscape fuel c.step
      glue part c
    else if char == '\'' || char == '"' || char == '\\' then glue [char] c.step
    else
      let blanks := c.run fun char => char == ' ' || char == '\t'
      let c := c.advance blanks.length
      if c.next = theEnd then .error .malformed
      else
        match c.takeBreak with
        | (some char, c) => do
          let (breaks, c) ← quotedBreaks fuel c
          glue (folded char breaks) c
        | (none, c) => glue blanks c

/-- A scalar between quotes. -/
def takeQuoted (double : Bool) (c : Cursor) : Except Error (List Char × Cursor) :=
  takeQuotedRest double (2 * c.rest.length + 2) c.step

/-! ## Blocks -/

/-- What becomes of the line ends at the end of a block: one is kept, none, or all. -/
inductive Chomping
  | clip
  | strip
  | keep
  deriving DecidableEq, Repr

/-- The marks after the indicator of a block: chomping, and an explicit indentation. -/
def takeBlockMarks (c : Cursor) : Except Error (Chomping × Option Nat × Cursor) := do
  let chomping (c : Cursor) : Option Chomping :=
    if c.next = '+' then some .keep else if c.next = '-' then some .strip else none
  let digit (c : Cursor) : Option Nat :=
    if '0' ≤ c.next ∧ c.next ≤ '9' then some (c.next.toNat - 48) else none
  let checked (result : Chomping × Option Nat × Cursor) :
      Except Error (Chomping × Option Nat × Cursor) :=
    if result.2.1 = some 0 then .error .malformed
    else if result.2.2.next = ' ' ∨ isStop result.2.2.next then .ok result
    else .error .malformed
  match chomping c with
  | some mark =>
    match digit c.step with
    | some n => checked (mark, some n, c.step.step)
    | none => checked (mark, none, c.step)
  | none =>
    match digit c with
    | some n =>
      match chomping c.step with
      | some mark => checked (mark, some n, c.step.step)
      | none => checked (.clip, some n, c.step)
    | none => checked (.clip, none, c)

/-- The rest of a line that may hold only a comment. -/
def skipComment (c : Cursor) : Except Error Cursor :=
  let c := c.skip (· == ' ')
  let c := if c.next = '#' then c.skip fun char => !isStop char else c
  if isStop c.next then .ok c.takeBreak.2 else .error .malformed

/-- The empty lines before a block, and the deepest of their indentations. -/
def blockIndent : Nat → Nat → Cursor → List Char × Nat × Cursor
  | 0, deepest, c => ([], deepest, c)
  | fuel + 1, deepest, c =>
    if c.next = ' ' then blockIndent fuel (max deepest c.step.column) c.step
    else
      match c.takeBreak with
      | (some char, c) =>
        let (breaks, deepest, c) := blockIndent fuel deepest c
        (char :: breaks, deepest, c)
      | (none, c) => ([], deepest, c)

/-- The cursor moved over spaces, at most to a column. -/
def indentTo (indent : Nat) : Nat → Cursor → Cursor
  | 0, c => c
  | fuel + 1, c => if c.column < indent && c.next == ' ' then indentTo indent fuel c.step else c

/-- The empty lines inside a block, and the cursor at the indentation of the line after them. -/
def blockBreaks (indent : Nat) : Nat → Cursor → List Char × Cursor
  | 0, c => ([], c)
  | fuel + 1, c =>
    let c := indentTo indent indent c
    match c.takeBreak with
    | (some char, c) =>
      let (breaks, c) := blockBreaks indent fuel c
      (char :: breaks, c)
    | (none, c) => ([], c)

/-- The lines of a block: their text, the last line end, the empty lines after it, and the cursor
after them. `breaks` are the empty lines before. -/
def blockLines (fold : Bool) (indent : Nat) :
    Nat → (breaks : List Char) → Cursor → List Char × List Char × List Char × Cursor
  | 0, breaks, c => ([], [], breaks, c)
  | fuel + 1, breaks, c =>
    if c.column == indent && c.next != theEnd then
      let startsText := !(c.next == ' ' || c.next == '\t')
      let line := c.run fun char => !isStop char
      let (lineEnd, c) := (c.advance line.length).takeBreak
      let lineEnd := lineEnd.toList
      let (breaks', c) := blockBreaks indent fuel c
      if c.column == indent && c.next != theEnd then
        let glue :=
          if fold && lineEnd == ['\n'] && startsText && !(c.next == ' ' || c.next == '\t') then
            (if breaks'.isEmpty then [' '] else [])
          else lineEnd
        let (text, last, after, c) := blockLines fold indent fuel breaks' c
        (breaks ++ line ++ glue ++ text, last, after, c)
      else (breaks ++ line, lineEnd, breaks', c)
    else ([], [], breaks, c)

/-- A literal block, or a folded one, inside a collection of an indentation. -/
def takeBlock (fold : Bool) (outer : Int) (c : Cursor) : Except Error (List Char × Cursor) := do
  let fuel := c.rest.length + 1
  let (chomping, explicit, c) ← takeBlockMarks c.step
  let c ← skipComment c
  let least := max (outer + 1) 1
  let (breaks, indent, c) :=
    match explicit with
    | some n =>
      let indent := (least + n - 1).toNat
      let (breaks, c) := blockBreaks indent fuel c
      (breaks, indent, c)
    | none =>
      let (breaks, deepest, c) := blockIndent fuel 0 c
      (breaks, max least.toNat deepest, c)
  let (text, last, after, c) := blockLines fold indent fuel breaks c
  let ending :=
    match chomping with
    | .clip => last
    | .strip => []
    | .keep => last ++ after
  return (text ++ ending, c)

end TaskShell.Yaml
