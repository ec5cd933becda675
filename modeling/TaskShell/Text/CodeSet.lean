/-!
# Sets of code points

A character class is a set of code points. Classes come in long runs, so a set is kept as the
ascending list of the code points at which membership changes, starting outside the set.

## Main definitions

* `Text.CodeSet` — the list of boundaries.
* `Text.CodeSet.contains` — membership of a code point.
-/

set_option autoImplicit false

namespace TaskShell.Text

/-- A set of code points, as the ascending list of the places where membership changes. -/
abbrev CodeSet := List Nat

namespace CodeSet

/-- Membership of `code`, when `inside` tells whether the points before the first boundary
belong to the set. -/
def containsFrom (inside : Bool) : CodeSet → Nat → Bool
  | [], _ => inside
  | boundary :: rest, code => if code < boundary then inside else containsFrom (!inside) rest code

/-- Membership of a code point. -/
def contains (set : CodeSet) (code : Nat) : Bool :=
  containsFrom false set code

end CodeSet

end TaskShell.Text
