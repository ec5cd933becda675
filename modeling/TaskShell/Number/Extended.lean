import TaskShell.Number.Binary64

/-!
# Extended precision

Arithmetic on numbers that are not negative, with significands of 64 bits: every result is rounded
to the nearest number, a tie going to the even significand. Exponents are not bounded.

## Main definitions

* `Extended` — the numbers.
* `Extended.round` — the number nearest to a scaled quotient.
* `Extended.add`, `Extended.sub`, `Extended.mul`, `Extended.div` — the operations.
* `Extended.decimal` — the double nearest to a decimal, as it takes part in such arithmetic.
-/

set_option autoImplicit false

namespace TaskShell

open Number (twoTo)

/-- The number `significand * 2 ^ exponent`. -/
structure Extended where
  significand : Nat
  exponent : Int
  deriving DecidableEq, Repr, Inhabited

namespace Extended

/-- The number nearest to `numerator / denominator * 2 ^ exponent`, a tie going to the even
significand. -/
def round (numerator denominator : Nat) (exponent : Int) : Extended :=
  if numerator = 0 then ⟨0, 0⟩
  else
    let guess := (numerator.log2 : Int) - (denominator.log2 : Int) - 64
    let (n, d) := Binary64.scaled numerator denominator guess
    let shift := if twoTo 64 * d ≤ n then guess + 1 else guess
    let (n, d) := Binary64.scaled numerator denominator shift
    ⟨Binary64.roundHalfEven n d, exponent + shift⟩

/-- Two significands to the smaller of two exponents, and that exponent. -/
def aligned (a b : Extended) : Nat × Nat × Int :=
  let exponent := min a.exponent b.exponent
  (a.significand * twoTo (a.exponent - exponent).toNat,
   b.significand * twoTo (b.exponent - exponent).toNat, exponent)

/-- Whether the first number is below the second. -/
def lt (a b : Extended) : Bool :=
  let (m, n, _) := aligned a b
  m < n

/-- The rounded sum. -/
def add (a b : Extended) : Extended :=
  let (m, n, exponent) := aligned a b
  round (m + n) 1 exponent

/-- The rounded difference from a number that is not larger. -/
def sub (a b : Extended) : Extended :=
  let (m, n, exponent) := aligned a b
  round (m - n) 1 exponent

/-- The rounded product. -/
def mul (a b : Extended) : Extended :=
  round (a.significand * b.significand) 1 (a.exponent + b.exponent)

/-- The rounded quotient by a positive number. -/
def div (a b : Extended) : Extended :=
  round a.significand b.significand (a.exponent - b.exponent)

/-- The whole part. -/
def floor (a : Extended) : Nat :=
  if a.exponent < 0 then a.significand / twoTo (-a.exponent).toNat
  else a.significand * twoTo a.exponent.toNat

/-- A whole number of at most 64 bits. -/
def ofNat (n : Nat) : Extended :=
  ⟨n, 0⟩

/-- The magnitude of a finite double, which is exact. -/
def ofBinary64 : Binary64 → Extended
  | .finite _ significand exponent _ => ⟨significand, exponent⟩
  | _ => ⟨0, 0⟩

/-- The double nearest to `coefficient * 10 ^ exponent`. -/
def decimal (coefficient : Nat) (exponent : Int) : Extended :=
  ofBinary64 (.ofDecimal false coefficient exponent)

end Extended

end TaskShell
