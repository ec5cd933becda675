import TaskShell.Number.Reader
import TaskShell.Text.Base64
import TaskShell.Value.Display
import TaskShell.Yaml.Tag
import TaskShell.Yaml.Timestamp

/-!
# Data

What the nodes of a YAML text stand for. A collection refers to the data it holds by their numbers,
so that data can be shared and a collection can hold itself.

## Main definitions

* `Yaml.Datum` — a datum.
* `Yaml.scalarDatum` — the datum that a scalar spells.
-/

set_option autoImplicit false

namespace TaskShell.Yaml

/-- A datum: a simple value, a date or a time, bytes, or a collection of data. -/
inductive Datum
  | value (value : Value)
  | moment (timestamp : Timestamp)
  | bytes (content : List UInt8)
  | list (items : List Nat)
  | pairs (items : List (Nat × Nat))
  | map (entries : List (Nat × Nat))
  | set (items : List Nat)
  deriving Inhabited

namespace Datum

/-- Whether a datum is a collection. -/
def isCollection : Datum → Bool
  | .list _ | .pairs _ | .map _ | .set _ => true
  | .value _ | .moment .. | .bytes _ => false

/-- Whether a datum counts as given: null, false, zero and whatever is empty do not. -/
def isGiven : Datum → Bool
  | .value v => v.isGiven
  | .moment .. => true
  | .bytes content => !content.isEmpty
  | .list items | .set items => !items.isEmpty
  | .pairs items | .map items => !items.isEmpty

/-- The whole number that a simple value counts as when it is a key: truth values count as 1 and 0,
and a whole floating-point number as that number. -/
def keyNumber? : Datum → Option Int
  | .value (.bool b) => some (if b then 1 else 0)
  | .value (.int n) => some n
  | .value (.float x) => if x.isInteger then x.truncate? else none
  | _ => none

/-- Whether two data are equal as keys. Not-a-number is equal to nothing. -/
def sameKey (a b : Datum) : Bool :=
  match a.keyNumber?, b.keyNumber? with
  | some m, some n => m == n
  | none, none =>
    match a, b with
    | .value .null, .value .null => true
    | .value (.text s), .value (.text t) => s == t
    | .value (.float x), .value (.float y) => x == y && x != .nan
    | .moment s, .moment t => s.sameMoment t
    | .bytes s, .bytes t => s == t
    | _, _ => false
  | _, _ => false

end Datum

/-! ## Scalars -/

/-- A sign at the start of a number, `true` for minus, and the rest. There has to be something. -/
def takeNumberSign (cs : List Char) : Except Error (Bool × List Char) :=
  if cs.isEmpty then .error .emptyNumber else .ok (Number.takeSign cs)

/-- A whole number to a base. -/
def integer (base : Nat) (cs : List Char) : Except Error Int :=
  let text := String.ofList cs
  (Number.readIntIn base text).mapError fun
    | .unreadable => .integer base text
    | .tooLong digits => .tooManyDigits digits

/-- The magnitude of an integer: `0b` marks binary and `0x` hexadecimal numbers, any other zero at
the start octal ones, and colons part numbers to the base 60. -/
def magnitude (cs : List Char) : Except Error Int :=
  match cs with
  | [] => .error .emptyNumber
  | ['0'] => .ok 0
  | '0' :: 'b' :: digits => integer 2 digits
  | '0' :: 'x' :: digits => integer 16 digits
  | '0' :: _ => integer 8 cs
  | _ =>
    if cs.contains ':' then do
      let parts ← (Chars.cut ':' cs).mapM (integer 10)
      return parts.foldl (fun n part => 60 * n + part) 0
    else integer 10 cs

/-- The integer that a text spells, low lines aside. -/
def intOf (text : List Char) : Except Error Int := do
  let (negative, cs) ← takeNumberSign (text.filter (· != '_'))
  let n ← magnitude cs
  return if negative then -n else n

/-- A floating-point number in digits. -/
def floating (cs : List Char) : Except Error Binary64 :=
  let text := String.ofList cs
  match Number.readFloat? text with
  | some x => .ok x
  | none => .error (.float text)

/-- A power of 60 as a floating-point number. -/
def sixtyTo (n : Nat) : Except Error Binary64 :=
  match Binary64.ofNat (Nat.pow 60 n) with
  | .infinite _ => .error .hugePart
  | x => .ok x

/-- The sum of parts, the last one first, of which each counts sixty times as much as the one
before. Every step is rounded. -/
def sumSixtieths (parts : List Binary64) : Except Error Binary64 :=
  (parts.zipIdx).foldlM
    (fun sum (part, place) => do return sum.add (part.mul (← sixtyTo place))) (.zero false)

/-- The floating-point number that a text spells, low lines and letter case aside, and whether it is
the one that `.nan` names. -/
def floatOf (text : List Char) : Except Error (Binary64 × Bool) := do
  let cs := (Text.lower (String.ofList (text.filter (· != '_')))).toList
  let (negative, cs) ← takeNumberSign cs
  let signed (x : Binary64) : Binary64 := if negative then x.negate else x
  if cs = ".inf".toList then return (.infinite negative, false)
  else if cs = ".nan".toList then return (.nan, true)
  else if cs.contains ':' then
    let parts ← (Chars.cut ':' cs).mapM floating
    return (signed (← sumSixtieths parts.reverse), false)
  else return (signed (← floating cs), false)

/-- The truth value that a word spells, letter case aside. -/
def truthOf (text : String) : Except Error Bool :=
  let word := Text.lower text
  if ["yes", "true", "on"].contains word then .ok true
  else if ["no", "false", "off"].contains word then .ok false
  else .error (.truth word)

/-- The date or the time that a text spells; a line end may follow it. -/
def momentOf (text : List Char) : Except Error Datum :=
  match timestamp? (if text.getLast? = some '\n' then text.dropLast else text) with
  | none => .error .noTimestamp
  | some t =>
    match t.problem? with
    | some problem => .error (.date problem)
    | none => .ok (.moment t)

/-- The datum that a scalar with a tag spells, and whether it is the number that `.nan` names. -/
def scalarDatum (tag : Tag) (text : String) : Except Error (Datum × Bool) :=
  match tag with
  | .null => .ok (.value .null, false)
  | .bool => do return (.value (.bool (← truthOf text)), false)
  | .int => do return (.value (.int (← intOf text.toList)), false)
  | .float => do
    let (x, isNamed) ← floatOf text.toList
    return (.value (.float x), isNamed)
  | .binary =>
    match Base64.decode? text.toList with
    | some content => .ok (.bytes content, false)
    | none => .error .malformed
  | .timestamp => do return (← momentOf text.toList, false)
  | .text => .ok (.value (.text text), false)
  | .merge | .default | .sequence | .pairs | .mapping | .set | .unknown => .error .malformed

end TaskShell.Yaml
