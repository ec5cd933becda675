/-!
# Powers

## Main definitions

* `Number.twoTo`, `Number.tenTo` — powers of two and of ten.
* `Number.wordEnd` — the first number too large for a signed word of 64 bits.
-/

set_option autoImplicit false

namespace TaskShell.Number

/-- A power of two. -/
abbrev twoTo (n : Nat) : Nat :=
  Nat.pow 2 n

/-- A power of ten. -/
abbrev tenTo (n : Nat) : Nat :=
  Nat.pow 10 n

/-- The first number too large for a signed word of 64 bits. -/
def wordEnd : Int := 9223372036854775808

end TaskShell.Number
