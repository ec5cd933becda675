import TaskShell.Text.ClassTable

/-!
# Character classes

## Main definitions

* `Text.isBlank` — the characters that separate words.
* `Text.isPadding` — the blanks that may surround a number.
* `Text.isPrintable`, `Text.isWord` — characters with a shape, characters of words.
* `Text.digit?` — the value of a decimal digit of any script.
* `Text.isKey` — the characters of flag names.
-/

set_option autoImplicit false

namespace TaskShell.Text

/-- Blank characters: the controls that move the cursor, the four separators of information,
the space and its wide, narrow and line-ending relatives. -/
def isBlank (c : Char) : Bool :=
  let code := c.toNat
  (9 ≤ code && code ≤ 13) || (28 ≤ code && code ≤ 32) || code == 133 || code == 160 ||
    code == 5760 || (8192 ≤ code && code ≤ 8202) || code == 8232 || code == 8233 ||
    code == 8239 || code == 8287 || code == 12288

/-- Blanks that may stand around a number: all but the separators of information. -/
def isPadding (c : Char) : Bool :=
  isBlank c && !(28 ≤ c.toNat && c.toNat ≤ 31)

/-- Characters that a terminal shows. -/
def isPrintable (c : Char) : Bool :=
  printableTable.contains c.toNat

/-- Letters, digits, other numerals and the low line. -/
def isWord (c : Char) : Bool :=
  wordTable.contains c.toNat

/-- The position of `code` in the first block of ten that holds it. -/
def digitFrom? : List Nat → Nat → Option Nat
  | [], _ => none
  | start :: starts, code =>
    if start ≤ code ∧ code ≤ start + 9 then some (code - start) else digitFrom? starts code

/-- The value of a decimal digit of any script. -/
def digit? (c : Char) : Option Nat :=
  digitFrom? decimalZeros c.toNat

/-- Characters of flag names: letters and digits of the basic alphabet, `_` and `-`. -/
def isKey (c : Char) : Bool :=
  ('a' ≤ c && c ≤ 'z') || ('A' ≤ c && c ≤ 'Z') || ('0' ≤ c && c ≤ '9') || c == '_' || c == '-'

end TaskShell.Text
