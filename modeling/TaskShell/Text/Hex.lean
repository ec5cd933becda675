/-!
# Hexadecimal numbers

## Main definitions

* `Text.hexDigit?`, `Text.hexNumber?` — the values of digits.
* `Text.hexDigits` — a number in hexadecimal with a least width.
-/

set_option autoImplicit false

namespace TaskShell.Text

/-- The value of a hexadecimal digit. -/
def hexDigit? (c : Char) : Option Nat :=
  if '0' ≤ c ∧ c ≤ '9' then some (c.toNat - 48)
  else if 'a' ≤ c ∧ c ≤ 'f' then some (c.toNat - 87)
  else if 'A' ≤ c ∧ c ≤ 'F' then some (c.toNat - 55)
  else none

/-- The number that hexadecimal digits spell. -/
def hexNumber? (digits : List Char) : Option Nat :=
  digits.foldl (fun n d => do return 16 * (← n) + (← hexDigit? d)) (some 0)

/-- A number in lower-case hexadecimal with at least `width` digits. -/
def hexDigits (width n : Nat) : List Char :=
  let digits := Nat.toDigits 16 n
  List.replicate (width - digits.length) '0' ++ digits

end TaskShell.Text
