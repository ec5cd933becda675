import TaskShell.Number.Binary64
import TaskShell.Text.Case
import TaskShell.Text.Hex
import TaskShell.Text.Words

/-!
# Reading numbers

Numbers as people type them: padding around them, a sign, digits of any script with single low
lines between them, and for floating-point numbers a fraction, an exponent, or a name such as
`inf`.

## Main definitions

* `Number.readIntIn` — whole numbers to a base.
* `Number.readInt?` — decimal whole numbers of at most 4300 digits.
* `Number.readFloat?` — floating-point numbers.
* `Number.isNumeric` — the characters of numbers that are written out.
-/

set_option autoImplicit false

namespace TaskShell.Number

open TaskShell.Text

/-- Digits with single low lines between them: their values, and the rest of the text. A low line
that no digit follows is left in the rest. -/
def takeDigitsBy (digit? : Char → Option Nat) : List Char → List Nat × List Char
  | [] => ([], [])
  | c :: cs =>
    match digit? c with
    | none => ([], c :: cs)
    | some d =>
      match cs with
      | [] => ([d], [])
      | '_' :: c' :: cs' =>
        if (digit? c').isSome then
          let (ds, rest) := takeDigitsBy digit? (c' :: cs')
          (d :: ds, rest)
        else ([d], '_' :: c' :: cs')
      | cs =>
        let (ds, rest) := takeDigitsBy digit? cs
        (d :: ds, rest)

/-- Decimal digits with single low lines between them. -/
def takeDigits (cs : List Char) : List Nat × List Char :=
  takeDigitsBy digit? cs

/-- The number that digits to a base spell. -/
def ofDigitsIn (base : Nat) (digits : List Nat) : Nat :=
  digits.foldl (fun n d => base * n + d) 0

/-- The number that decimal digits spell. -/
def ofDigits (digits : List Nat) : Nat :=
  ofDigitsIn 10 digits

/-- A leading sign, `true` for minus, and the rest. -/
def takeSign : List Char → Bool × List Char
  | '-' :: cs => (true, cs)
  | '+' :: cs => (false, cs)
  | cs => (false, cs)

/-- A text without the padding around it. -/
def unpad (cs : List Char) : List Char :=
  Chars.dropEnd isPadding (cs.dropWhile isPadding)

/-- The most decimal digits of a whole number. -/
def digitLimit : Nat := 4300

/-- Why a text is no whole number: it is not written as one, or it has too many decimal digits. -/
inductive IntFault
  | unreadable
  | tooLong (digits : Nat)
  deriving DecidableEq, Repr

/-- The value of a digit to a base: a decimal digit of any script, or a letter. -/
def digitIn? (base : Nat) (c : Char) : Option Nat :=
  ((digit? c).or (hexDigit? c)).filter (· < base)

/-- The letter that marks numbers to a base. -/
def baseMark? : Nat → Option Char
  | 2 => some 'b'
  | 8 => some 'o'
  | 16 => some 'x'
  | _ => none

/-- A number without the mark of its base: zero and a letter of either case. One low line may
follow. -/
def dropMark (base : Nat) (cs : List Char) : List Char :=
  match cs with
  | '0' :: mark :: rest =>
    if baseMark? base = some mark.toLower then
      match rest with
      | '_' :: rest => rest
      | rest => rest
    else cs
  | cs => cs

/-- A whole number to the base 2, 8, 10 or 16. Only decimal numbers are limited in length. -/
def readIntIn (base : Nat) (s : String) : Except IntFault Int :=
  let (negative, cs) := takeSign (unpad s.toList)
  let (digits, rest) := takeDigitsBy (digitIn? base) (dropMark base cs)
  if digits.isEmpty || rest.head? == some '_' then .error .unreadable
  else if base = 10 ∧ digitLimit < digits.length then .error (.tooLong digits.length)
  else if rest.isEmpty then .ok (Binary64.signed negative (ofDigitsIn base digits))
  else .error .unreadable

/-- A decimal whole number. -/
def readInt? (s : String) : Option Int :=
  (readIntIn 10 s).toOption

/-- The exponent part of a number: nothing, or a mark, a sign and digits up to the end. -/
def readExponent? : List Char → Option Int
  | [] => some 0
  | mark :: cs =>
    if mark = 'e' ∨ mark = 'E' then
      let (negative, cs) := takeSign cs
      match takeDigits cs with
      | ([], _) => none
      | (digits, []) => some (Binary64.signed negative (ofDigits digits))
      | _ => none
    else none

/-- The digits after a decimal point, none if there is no point, and the rest. -/
def takeFraction : List Char → List Nat × List Char
  | '.' :: cs => takeDigits cs
  | cs => ([], cs)

/-- A number in digits: whole digits, a fraction, or both, and an exponent. -/
def readDecimal? (negative : Bool) (cs : List Char) : Option Binary64 :=
  let (whole, rest) := takeDigits cs
  let (part, rest) := takeFraction rest
  if whole.isEmpty && part.isEmpty then none
  else
    (readExponent? rest).map fun exponent =>
      Binary64.ofDecimal negative (ofDigits (whole ++ part)) (exponent - part.length)

/-- Whether a character can stand in a number that is written out. -/
def isNumeric (c : Char) : Bool :=
  ('0' ≤ c && c ≤ '9') || c == '-' || c == '+' || c == '.' || c == 'e' || c == 'E'

/-- A floating-point number, also `inf`, `infinity` and `nan` in any letter case. -/
def readFloat? (s : String) : Option Binary64 :=
  let (negative, cs) := takeSign (unpad s.toList)
  let name := String.ofList (foldBasic (String.ofList cs))
  if name = "inf" ∨ name = "infinity" then some (.infinite negative)
  else if name = "nan" then some .nan
  else readDecimal? negative cs

end TaskShell.Number
