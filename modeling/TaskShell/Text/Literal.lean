import TaskShell.Text.Class
import TaskShell.Text.Hex

/-!
# Quoted literals

A text as it stands inside a shown collection: between quotes, with what cannot be shown escaped.
Single quotes enclose it unless it holds a single quote and no double one.

## Main definitions

* `Text.literal` — the literal of a text.
-/

set_option autoImplicit false

namespace TaskShell.Text

/-- The escape of a character by its code point. -/
def codeEscape (c : Char) : List Char :=
  let code := c.toNat
  if code < 256 then '\\' :: 'x' :: hexDigits 2 code
  else if code < 65536 then '\\' :: 'u' :: hexDigits 4 code
  else '\\' :: 'U' :: hexDigits 8 code

/-- A character inside a literal that `quote` encloses. -/
def literalChar (quote c : Char) : List Char :=
  if c = quote ∨ c = '\\' then ['\\', c]
  else if c = '\n' then ['\\', 'n']
  else if c = '\r' then ['\\', 'r']
  else if c = '\t' then ['\\', 't']
  else if isPrintable c then [c]
  else codeEscape c

/-- The literal of a text. -/
def literal (s : String) : String :=
  let cs := s.toList
  let quote := if cs.contains '\'' && !cs.contains '"' then '"' else '\''
  String.ofList (quote :: cs.flatMap (literalChar quote) ++ [quote])

end TaskShell.Text
