import TaskShell.Number.Binary64
import TaskShell.Number.Power

/-!
# Decimal text of floating-point numbers

A number is written with the fewest digits that read back as the same number, and of those with
the digits nearest to it. Where the positional form ends and how exponents look is a `Style`.

## Main definitions

* `Binary64.shortest` — the digits and the position of the decimal point.
* `Binary64.Style`, `Binary64.plain` — layouts of digits.
* `Binary64.text` — the text in the plain style.
-/

set_option autoImplicit false

namespace TaskShell.Binary64

open Number (twoTo tenTo)

/-- Digits of a positive number: it is `0.d₁d₂… * 10 ^ point`, up to rounding. -/
structure Digits where
  digits : List Char
  point : Int
  deriving DecidableEq, Repr

/-- `coefficient * 10 ^ exponent` without trailing zeros in the digits. -/
def Digits.ofCoefficient (coefficient : Nat) (exponent : Int) : Digits :=
  let digits := Nat.toDigits 10 coefficient
  ⟨(digits.reverse.dropWhile (· == '0')).reverse, exponent + digits.length⟩

/-- A fraction `n / d` on the grid of multiples of `10 ^ exponent`: the fraction of grid steps. -/
def gridSteps (n d : Nat) (exponent : Int) : Nat × Nat :=
  if exponent < 0 then (n * tenTo (-exponent).toNat, d) else (n, d * tenTo exponent.toNat)

/-- The exponent `k` with `10 ^ (k - 1) ≤ n / d < 10 ^ k`, for a positive fraction that is not
below `10 ^ (-330)`. -/
def decimalExponent (n d : Nat) : Int :=
  (digitCount (n * tenTo 330 / d) : Int) - 330

/-- The reals that round to a number: the ends, as multiples of `2 ^ exponent`, and whether they
belong to it. -/
structure Interval where
  low : Nat
  high : Nat
  exponent : Int
  closed : Bool

/-- The reals that round to `significand * 2 ^ exponent`. Below a power of two the numbers are
twice as dense. -/
def intervalOf (significand : Nat) (exponent : Int) : Interval :=
  let low :=
    if significand = twoTo 52 ∧ -1074 < exponent then 4 * significand - 1 else 4 * significand - 2
  ⟨low, 4 * significand + 2, exponent - 2, significand % 2 == 0⟩

/-- Whether `coefficient * 10 ^ exponent` lies in the interval. -/
def Interval.holds (i : Interval) (coefficient : Nat) (exponent : Int) : Bool :=
  let side (bound : Nat) : Nat × Nat :=
    let (bn, bd) := if i.exponent < 0 then (bound, twoTo (-i.exponent).toNat)
      else (bound * twoTo i.exponent.toNat, 1)
    let (cn, cd) := if exponent < 0 then (coefficient, tenTo (-exponent).toNat)
      else (coefficient * tenTo exponent.toNat, 1)
    (bn * cd, cn * bd)
  let (low, value) := side i.low
  let (high, value') := side i.high
  if i.closed then low ≤ value && value' ≤ high else low < value && value' < high

/-- The digits of the positive fraction `n / d`, searched on ever finer decimal grids. -/
def searchDigits (i : Interval) (n d : Nat) (magnitude : Int) : Nat → Nat → Digits
  | 0, count =>
    let exponent := magnitude - count
    let (sn, sd) := gridSteps n d exponent
    .ofCoefficient (roundHalfEven sn sd) exponent
  | fuel + 1, count =>
    let exponent := magnitude - count
    let (sn, sd) := gridSteps n d exponent
    let below := sn / sd
    let down := i.holds below exponent
    let up := i.holds (below + 1) exponent
    if down && up then .ofCoefficient (roundHalfEven sn sd) exponent
    else if down then .ofCoefficient below exponent
    else if up then .ofCoefficient (below + 1) exponent
    else searchDigits i n d magnitude fuel (count + 1)

/-- The fewest digits that read back as `significand * 2 ^ exponent`, nearest to it. Seventeen
digits always do. -/
def shortest (significand : Nat) (exponent : Int) : Digits :=
  if significand = 0 then ⟨['0'], 1⟩
  else
    let (n, d) := fraction significand exponent
    searchDigits (intervalOf significand exponent) n d (decimalExponent n d) 16 1

/-- How digits are laid out: the exponents written positionally, whether a whole significand keeps
a fraction digit in the exponent form, and the names of what is not finite. -/
structure Style where
  leastExponent : Int
  greatestExponent : Int
  fractionInExponentForm : Bool
  signOfZero : Bool
  infinity : String
  notANumber : String

/-- The plain style: positional from `10 ^ (-4)` to below `10 ^ 16`, else `1e+16`. -/
def plain : Style := ⟨-4, 15, false, true, "inf", "nan"⟩

/-- Digits with a decimal point in the right place and at least one digit on both sides. -/
def positional (d : Digits) : List Char :=
  if d.point ≤ 0 then
    "0.".toList ++ List.replicate (-d.point).toNat '0' ++ d.digits
  else
    let whole := d.point.toNat
    let fill := List.replicate (whole - d.digits.length) '0'
    let tail := d.digits.drop whole
    d.digits.take whole ++ fill ++ ['.'] ++ if tail.isEmpty then ['0'] else tail

/-- Digits in exponent form, the exponent with a sign and at least two digits. -/
def scientific (style : Style) (d : Digits) : List Char :=
  let exponent := d.point - 1
  let head := d.digits.take 1
  let tail := d.digits.drop 1
  let tail := if tail.isEmpty && style.fractionInExponentForm then ['0'] else tail
  let sign := if exponent < 0 then '-' else '+'
  let digits := Nat.toDigits 10 exponent.natAbs
  let digits := if digits.length < 2 then '0' :: digits else digits
  head ++ (if tail.isEmpty then [] else '.' :: tail) ++ 'e' :: sign :: digits

/-- Digits in the form that the style asks for. -/
def Style.layout (style : Style) (d : Digits) : List Char :=
  if style.leastExponent ≤ d.point - 1 && d.point - 1 ≤ style.greatestExponent then positional d
  else scientific style d

/-- The text of a number whose digits `digits` chooses. -/
def textWith (style : Style) (digits : Nat → Int → Digits) : Binary64 → String
  | .nan => style.notANumber
  | .infinite negative => (if negative then "-" else "") ++ style.infinity
  | .finite negative m e _ =>
    let sign := if negative && (style.signOfZero || m != 0) then "-" else ""
    sign ++ String.ofList (style.layout (digits m e))

/-- The shortest text that reads back as the number. -/
def text (x : Binary64) : String :=
  textWith plain shortest x

end TaskShell.Binary64
