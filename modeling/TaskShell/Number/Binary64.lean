import TaskShell.Number.Power

/-!
# Binary floating-point numbers of 64 bits

A number is kept as its sign, significand and binary exponent, so that reading, comparing and
printing are exact integer arithmetic.

## Main definitions

* `Binary64` — signed finite numbers, the two infinities and not-a-number.
* `Binary64.Fits` — the form in which finite numbers are kept.
* `Binary64.ofRatio` — the number nearest to a quotient, a tie going to the even significand.
* `Binary64.ofDecimal` — the number nearest to a decimal.
* `Binary64.mul`, `Binary64.add` — rounded products and sums.
* `Binary64.lessThan`, `Binary64.greaterThan` — comparison with an integer.
* `Binary64.truncate?` — the integer part of a finite number.
-/

set_option autoImplicit false

namespace TaskShell

open Number (twoTo tenTo)

namespace Binary64

/-- A significand and an exponent are those of a number of the format. Every number has one form:
its significand has all 53 bits, or its exponent is the least. -/
structure Fits (significand : Nat) (exponent : Int) : Prop where
  significand_lt : significand < twoTo 53
  least_le : -1074 ≤ exponent
  le_greatest : exponent ≤ 971
  full_or_least : twoTo 52 ≤ significand ∨ exponent = -1074

instance (significand : Nat) (exponent : Int) : Decidable (Fits significand exponent) :=
  decidable_of_iff
    (significand < twoTo 53 ∧ -1074 ≤ exponent ∧ exponent ≤ 971 ∧
      (twoTo 52 ≤ significand ∨ exponent = -1074))
    ⟨fun ⟨h₁, h₂, h₃, h₄⟩ => ⟨h₁, h₂, h₃, h₄⟩, fun ⟨h₁, h₂, h₃, h₄⟩ => ⟨h₁, h₂, h₃, h₄⟩⟩

end Binary64

/-- A floating-point number. A finite one is `significand * 2 ^ exponent`, up to sign. -/
inductive Binary64
  | finite (negative : Bool) (significand : Nat) (exponent : Int)
      (fits : Binary64.Fits significand exponent)
  | infinite (negative : Bool)
  | nan
  deriving DecidableEq, Repr, Inhabited

namespace Binary64

/-- Zero with a sign. -/
def zero (negative : Bool) : Binary64 :=
  .finite negative 0 (-1074) (by decide)

/-- The number with a significand and an exponent, or the infinity if they do not fit. -/
def ofParts (negative : Bool) (significand : Nat) (exponent : Int) : Binary64 :=
  if fits : Fits significand exponent then .finite negative significand exponent fits
  else .infinite negative

/-- The quotient `numerator / denominator / 2 ^ exponent` as a fraction. -/
def scaled (numerator denominator : Nat) (exponent : Int) : Nat × Nat :=
  if exponent < 0 then (numerator * twoTo (-exponent).toNat, denominator)
  else (numerator, denominator * twoTo exponent.toNat)

/-- The integer nearest to a fraction, a tie going to the even one. -/
def roundHalfEven (numerator denominator : Nat) : Nat :=
  let quotient := numerator / denominator
  let remainder := numerator % denominator
  if 2 * remainder < denominator then quotient
  else if denominator < 2 * remainder then quotient + 1
  else if quotient % 2 = 0 then quotient else quotient + 1

/-- The least exponent, not below `-1074`, at which the significand of a positive fraction fits
into 53 bits. -/
def exponentOf (numerator denominator : Nat) : Int :=
  let guess := max ((numerator.log2 : Int) - (denominator.log2 : Int) - 53) (-1074)
  let (n, d) := scaled numerator denominator guess
  if twoTo 53 * d ≤ n then guess + 1 else guess

/-- The number nearest to a fraction with a positive denominator. -/
def ofRatio (negative : Bool) (numerator denominator : Nat) : Binary64 :=
  if numerator = 0 then zero negative
  else
    let exponent := exponentOf numerator denominator
    let (n, d) := scaled numerator denominator exponent
    let significand := roundHalfEven n d
    let (significand, exponent) :=
      if significand = twoTo 53 then (twoTo 52, exponent + 1) else (significand, exponent)
    ofParts negative significand exponent

/-- The number of decimal digits of `n`, none for zero. -/
def digitCount (n : Nat) : Nat :=
  if n = 0 then 0 else (Nat.toDigits 10 n).length

/-- The number nearest to `coefficient * 10 ^ exponent`. Exponents far outside the range of the
format are answered without building the power. -/
def ofDecimal (negative : Bool) (coefficient : Nat) (exponent : Int) : Binary64 :=
  if coefficient = 0 then zero negative
  else
    let magnitude := exponent + digitCount coefficient
    if 310 < magnitude then .infinite negative
    else if magnitude < -330 then zero negative
    else if exponent < 0 then ofRatio negative coefficient (tenTo (-exponent).toNat)
    else ofRatio negative (coefficient * tenTo exponent.toNat) 1

/-- The value of a finite magnitude as a fraction. -/
def fraction (significand : Nat) (exponent : Int) : Nat × Nat :=
  if exponent < 0 then (significand, twoTo (-exponent).toNat)
  else (significand * twoTo exponent.toNat, 1)

/-- A sign applied to a magnitude. -/
def signed (negative : Bool) (magnitude : Nat) : Int :=
  if negative then -(magnitude : Int) else magnitude

/-- The number nearest to a whole one. -/
def ofNat (n : Nat) : Binary64 :=
  ofRatio false n 1

/-- The number with the other sign. -/
def negate : Binary64 → Binary64
  | .finite negative m e fits => .finite (!negative) m e fits
  | .infinite negative => .infinite (!negative)
  | .nan => .nan

/-- The rounded product. -/
def mul : Binary64 → Binary64 → Binary64
  | .finite a m e _, .finite b m' e' _ =>
    let (n, d) := fraction m e
    let (n', d') := fraction m' e'
    ofRatio (a != b) (n * n') (d * d')
  | .infinite a, .infinite b => .infinite (a != b)
  | .infinite a, .finite b m .. | .finite b m .., .infinite a =>
    if m = 0 then .nan else .infinite (a != b)
  | .nan, _ | _, .nan => .nan

/-- The rounded sum. Opposite numbers give the positive zero. -/
def add : Binary64 → Binary64 → Binary64
  | .finite a m e _, .finite b m' e' _ =>
    let (n, d) := fraction m e
    let (n', d') := fraction m' e'
    let sum := signed a (n * d') + signed b (n' * d)
    if sum = 0 then zero (a && b) else ofRatio (sum < 0) sum.natAbs (d * d')
  | .infinite a, .infinite b => if a = b then .infinite a else .nan
  | .infinite a, .finite .. | .finite .., .infinite a => .infinite a
  | .nan, _ | _, .nan => .nan

/-- Whether the number is below an integer. -/
def lessThan : Binary64 → Int → Bool
  | .nan, _ => false
  | .infinite negative, _ => negative
  | .finite negative m e _, bound =>
    if e < 0 then signed negative m < bound * twoTo (-e).toNat
    else signed negative (m * twoTo e.toNat) < bound

/-- Whether the number is above an integer. -/
def greaterThan : Binary64 → Int → Bool
  | .nan, _ => false
  | .infinite negative, _ => !negative
  | .finite negative m e _, bound =>
    if e < 0 then bound * twoTo (-e).toNat < signed negative m
    else bound < signed negative (m * twoTo e.toNat)

/-- Whether the number is neither infinite nor not-a-number. -/
def isFinite : Binary64 → Bool
  | .finite .. => true
  | _ => false

/-- Whether the number is a zero. -/
def isZero : Binary64 → Bool
  | .finite _ m .. => m == 0
  | _ => false

/-- The integer part of a finite number. -/
def truncate? : Binary64 → Option Int
  | .finite negative m e _ =>
    some (signed negative (if e < 0 then m / twoTo (-e).toNat else m * twoTo e.toNat))
  | _ => none

/-- Whether the number is finite and has no fractional part. -/
def isInteger : Binary64 → Bool
  | .finite _ m e _ => e ≥ 0 || m % twoTo (-e).toNat == 0
  | _ => false

end Binary64

end TaskShell
