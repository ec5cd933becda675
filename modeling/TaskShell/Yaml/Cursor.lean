import TaskShell.Yaml.Error

/-!
# Reading position in a YAML text

A cursor is the unread rest of a text together with the position of its first character. The null
character, which no YAML text holds, stands for the end.

## Main definitions

* `Yaml.Cursor` — the unread rest and its position.
* `Yaml.Cursor.advance` — the cursor some characters further on.
* `Yaml.isBreak`, `Yaml.isStop`, `Yaml.isGap` — the classes of characters that end scalars.
-/

set_option autoImplicit false

namespace TaskShell.Yaml

/-- The unread rest of a text, with the number of characters read, lines completed and characters
read in the current line. -/
structure Cursor where
  rest : List Char
  index : Nat := 0
  line : Nat := 0
  column : Nat := 0
  deriving Repr

/-- The end of the text. -/
def theEnd : Char := '\x00'

/-- Characters that end a line. -/
def isBreak (c : Char) : Bool :=
  c == '\n' || c == '\u0085' || c == '\u2028' || c == '\u2029'

/-- Line ends and the end of the text. -/
def isStop (c : Char) : Bool :=
  c == theEnd || isBreak c

/-- Spaces, tabs, line ends and the end of the text. -/
def isGap (c : Char) : Bool :=
  c == ' ' || c == '\t' || isStop c

namespace Cursor

/-- The character some places ahead. -/
def ahead (c : Cursor) (n : Nat) : Char :=
  (c.rest.drop n).headD theEnd

/-- The next character. -/
def next (c : Cursor) : Char :=
  c.rest.headD theEnd

/-- The cursor after the next character. -/
def step (c : Cursor) : Cursor :=
  match c.rest with
  | [] => c
  | char :: rest =>
    if isBreak char then ⟨rest, c.index + 1, c.line + 1, 0⟩
    else if char = '\uFEFF' then { c with rest, index := c.index + 1 }
    else ⟨rest, c.index + 1, c.line, c.column + 1⟩

/-- The cursor some characters further on. -/
def advance (c : Cursor) : Nat → Cursor
  | 0 => c
  | n + 1 => c.step.advance n

/-- The characters of a class that come next. -/
def run (c : Cursor) (p : Char → Bool) : List Char :=
  c.rest.takeWhile p

/-- The cursor after the characters of a class that come next. -/
def skip (c : Cursor) (p : Char → Bool) : Cursor :=
  c.advance (c.run p).length

/-- The line end that comes next, if one does, as it counts in a scalar, and the cursor after
it. -/
def takeBreak (c : Cursor) : Option Char × Cursor :=
  match c.next with
  | '\u2028' => (some '\u2028', c.step)
  | '\u2029' => (some '\u2029', c.step)
  | char => if isBreak char then (some '\n', c.step) else (none, c)

/-- Whether a document marker, `---` or `...`, comes next. -/
def atMarker (c : Cursor) : Bool :=
  (c.rest.take 3 == ['-', '-', '-'] || c.rest.take 3 == ['.', '.', '.']) && isGap (c.ahead 3)

end Cursor

end TaskShell.Yaml
