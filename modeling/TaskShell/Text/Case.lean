import TaskShell.Text.CaseTable
import TaskShell.Text.ClassTable

/-!
# Letter case

Full lower, upper and title case. A character can become several (`ß` becomes `SS`), and a capital
sigma becomes the final form `ς` at the end of a word: when the nearest character before it that is
not case-ignorable is cased and the nearest one after it is not.

## Main definitions

* `Chars.lower`, `Chars.upper`, `Chars.capitalize` — on lists of characters.
* `Text.lower`, `Text.upper`, `Text.capitalize` — on strings.
* `Text.foldBasic` — lower case for the letters `A` to `Z` only.
-/

set_option autoImplicit false

namespace TaskShell.Chars

open TaskShell.Text

/-- The one-to-one part of lower case. -/
def lowerSimple (c : Char) : Char :=
  match CaseRun.image? lowerRuns c.toNat with
  | some code => Char.ofNat code
  | none => c

/-- The lower case of a character outside any context: only the capital `I` with a dot above
becomes two characters. -/
def lowerChar (c : Char) : List Char :=
  if c = 'İ' then ['i', Char.ofNat 775] else [lowerSimple c]

/-- Whether a character is skipped when the neighbourhood of a sigma is examined. -/
def isCaseIgnorable (c : Char) : Bool :=
  caseIgnorableTable.contains c.toNat

/-- Whether a character that is not case-ignorable has letter case. -/
def isCased (c : Char) : Bool :=
  casedTable.contains c.toNat

/-- Whether the first character that is not case-ignorable is cased. -/
def startsCased : List Char → Bool
  | [] => false
  | c :: cs => if isCaseIgnorable c then startsCased cs else isCased c

/-- Lower case of a text that follows a cased character (`afterCased`) or does not. -/
def lowerFrom (afterCased : Bool) : List Char → List Char
  | [] => []
  | c :: cs =>
    let mapped :=
      if c = 'Σ' then (if afterCased && !startsCased cs then ['ς'] else ['σ']) else lowerChar c
    let cased := if isCaseIgnorable c then afterCased else isCased c
    mapped ++ lowerFrom cased cs

/-- Lower case. -/
def lower (cs : List Char) : List Char :=
  lowerFrom false cs

/-- The upper case of a character. -/
def upperChar (c : Char) : List Char :=
  match upperExpansions.lookup c.toNat with
  | some codes => codes.map Char.ofNat
  | none =>
    match CaseRun.image? upperRuns c.toNat with
    | some code => [Char.ofNat code]
    | none => [c]

/-- Upper case. -/
def upper (cs : List Char) : List Char :=
  cs.flatMap upperChar

/-- The title case of a character. -/
def titleChar (c : Char) : List Char :=
  match titleExceptions.lookup c.toNat with
  | some codes => codes.map Char.ofNat
  | none => upperChar c

/-- The first character in title case and the others in lower case. -/
def capitalize : List Char → List Char
  | [] => []
  | c :: cs => titleChar c ++ lowerFrom (!isCaseIgnorable c && isCased c) cs

end TaskShell.Chars

namespace TaskShell.Text

/-- Lower case. -/
def lower (s : String) : String :=
  String.ofList (Chars.lower s.toList)

/-- Upper case. -/
def upper (s : String) : String :=
  String.ofList (Chars.upper s.toList)

/-- The first character in title case and the others in lower case. -/
def capitalize (s : String) : String :=
  String.ofList (Chars.capitalize s.toList)

/-- Lower case for the letters `A` to `Z`; every other character stays. -/
def foldBasic (s : String) : List Char :=
  s.toList.map fun c => if 'A' ≤ c ∧ c ≤ 'Z' then Char.ofNat (c.toNat + 32) else c

end TaskShell.Text
