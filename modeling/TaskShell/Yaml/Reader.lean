import TaskShell.Yaml.Document

/-!
# Reading YAML texts

## Main definitions

* `Yaml.read` — the document that a text spells, if it holds one.
-/

set_option autoImplicit false

namespace TaskShell.Yaml

/-- Characters that a text may hold. -/
def isReadable (c : Char) : Bool :=
  let code := c.toNat
  code == 9 || code == 10 || code == 13 || (32 ≤ code && code ≤ 126) || code == 133 ||
    (160 ≤ code && code ≤ 0xFFFD) || 0x10000 ≤ code

/-- Line ends of either convention as one character. -/
def unifyLineEnds : List Char → List Char
  | '\r' :: '\n' :: cs => '\n' :: unifyLineEnds cs
  | '\r' :: cs => '\n' :: unifyLineEnds cs
  | c :: cs => c :: unifyLineEnds cs
  | [] => []

/-- The document that a text spells, if it holds one. -/
def read (text : String) : Except Error (Option Document) := do
  let cs := unifyLineEnds text.toList
  if !cs.all isReadable then throw .malformed
  match ← Graph.ofText? cs with
  | none => return none
  | some graph => return some (← Document.ofGraph graph)

end TaskShell.Yaml
