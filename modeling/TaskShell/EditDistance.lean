import TaskShell.Text.Case

/-!
# Edit distance

The least number of single-character insertions, deletions and substitutions that turn one text
into another, letter case aside. It is computed row by row: the row of a text holds its distances
to every initial piece of the other text.

## Main definitions

* `EditDistance.rows` — the last row, from which the distance is read.
* `EditDistance.fromTable`, `EditDistance.distance` — on lists of characters as they are.
* `EditDistance.ofWords` — on words, in lower case.
-/

set_option autoImplicit false

namespace TaskShell.EditDistance

/-- The cells of the row of a text with one more character `c`, after a cell `left`. `diagonal`
is the cell above `left`; the cells further along the row above are given beside their
characters. -/
def cells (c : Char) : (left diagonal : Nat) → List Char → List Nat → List Nat
  | left, diagonal, d :: ds, above :: aboves =>
    let cell := if c = d then diagonal else min (min diagonal left) above + 1
    cell :: cells c cell above ds aboves
  | _, _, _, _ => []

/-- The row of a text with one more character. -/
def nextRow (c : Char) (other : List Char) : List Nat → List Nat
  | [] => []
  | first :: rest => (first + 1) :: cells c (first + 1) first other rest

/-- The row of a text, from the row of the empty text. -/
def rows (other : List Char) (row : List Nat) : List Char → List Nat
  | [] => row
  | c :: cs => rows other (nextRow c other row) cs

/-- The last cell of the table of two lists of characters. -/
def fromTable (a b : List Char) : Nat :=
  (rows b (List.range (b.length + 1)) a).getLastD 0

/-- The edit distance of two lists of characters. Equal ones and empty ones need no table. -/
def distance (a b : List Char) : Nat :=
  if a = b then 0
  else if a.isEmpty then b.length
  else if b.isEmpty then a.length
  else fromTable a b

/-- The edit distance of two words, letter case aside. -/
def ofWords (a b : String) : Nat :=
  distance (Chars.lower a.toList) (Chars.lower b.toList)

end TaskShell.EditDistance
