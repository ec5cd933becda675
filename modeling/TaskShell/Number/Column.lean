import TaskShell.Number.Extended
import TaskShell.Number.Shortest

/-!
# Text columns

A number stored in a text column is kept with fifteen digits. They are found in extended precision:
the number is brought between 1 and 10 by powers of ten, half a unit of the last digit is added, and
the digits are taken off one by one. Every step rounds, so that a digit can come out one lower or
higher than that of the exact number.

## Main definitions

* `Binary64.columnDigits` — the fifteen digits.
* `Binary64.columnText` — the text that a column keeps.
-/

set_option autoImplicit false

namespace TaskShell.Binary64

/-- A number between 1 and 10, up to rounding, times a power of ten. -/
structure Normalized where
  value : Extended
  exponent : Int

/-- The power of ten that brings a number below the last step, found in steps of `step`, which is
ten to the number of `places`. -/
def powerBelow (value step : Extended) (places : Int) :
    (fuel : Nat) → (power : Extended) → (exponent : Int) → Extended × Int
  | 0, power, exponent => (power, exponent)
  | fuel + 1, power, exponent =>
    let next := step.mul power
    if value.lt next then (power, exponent)
    else powerBelow value step places fuel next (exponent + places)

/-- A number raised to a bound in steps of `step`, which is ten to the number of `places`. -/
def raise (bound step : Extended) (places : Int) : (fuel : Nat) → Normalized → Normalized
  | 0, n => n
  | fuel + 1, n =>
    if n.value.lt bound then
      raise bound step places fuel ⟨n.value.mul step, n.exponent - places⟩
    else n

/-- A positive number brought between 1 and 10: divided by a power of ten, then raised. -/
def normalize (value : Extended) : Normalized :=
  let (power, exponent) := powerBelow value (.decimal 1 100) 100 4 (.ofNat 1) 0
  let (power, exponent) := powerBelow value (.decimal 1 10) 10 10 power exponent
  let (power, exponent) := powerBelow value (.ofNat 10) 1 10 power exponent
  let n := raise (.decimal 1 (-8)) (.decimal 1 8) 8 45 ⟨value.div power, exponent⟩
  raise (.ofNat 1) (.ofNat 10) 1 10 n

/-- Half a unit of the fifteenth digit of a number between 1 and 10. -/
def halfUnit : Extended :=
  (Extended.decimal 5 (-5)).mul (.decimal 1 (-10))

/-- A number with half a unit of its fifteenth digit added. -/
def Normalized.rounded (n : Normalized) : Normalized :=
  let value := n.value.add halfUnit
  if value.lt (.ofNat 10) then ⟨value, n.exponent⟩
  else ⟨value.mul (.decimal 1 (-1)), n.exponent + 1⟩

/-- The first digits of a number below 10. -/
def leadingDigits : (count : Nat) → Extended → List Char
  | 0, _ => []
  | count + 1, value =>
    let digit := value.floor
    Char.ofNat (48 + digit) :: leadingDigits count ((value.sub (.ofNat digit)).mul (.ofNat 10))

/-- The fifteen digits of a number, without the zeros at their end. -/
def columnDigits (significand : Nat) (exponent : Int) : Digits :=
  if significand = 0 then ⟨['0'], 1⟩
  else
    let n := (normalize ⟨significand, exponent⟩).rounded
    ⟨((leadingDigits 15 n.value).reverse.dropWhile (· == '0')).reverse, n.exponent + 1⟩

/-- The style of a number stored in a text column: positional below `10 ^ 15`, else `1.0e+15`. -/
def column : Style := ⟨-4, 14, true, false, "Inf", ""⟩

/-- The text of a number stored in a text column. -/
def columnText (x : Binary64) : String :=
  textWith column columnDigits x

end TaskShell.Binary64
