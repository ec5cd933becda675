import TaskShell.Yaml.Tag
import TaskShell.Yaml.Timestamp

/-!
# The meaning of plain scalars

What a plain scalar spells: null, a truth value, an integer in one of five notations, a
floating-point number, a date, or, where it is none of these, text.

## Main definitions

* `Yaml.impliedTag` — what the text of a plain scalar spells.
-/

set_option autoImplicit false

namespace TaskShell.Yaml

/-- A text without a leading sign. -/
def unsigned (cs : List Char) : List Char :=
  match cs with
  | '-' :: rest | '+' :: rest => rest
  | _ => cs

/-- Digits and low lines. -/
def isDigits (cs : List Char) : Bool :=
  cs.all (oneOf "0123456789_")

/-- Digits and low lines, a digit first. -/
def startsDigits (cs : List Char) : Bool :=
  match cs with
  | c :: rest => c.isDigit && isDigits rest
  | [] => false

/-- A part of a number to base 60: one digit, or two of which the first is below six. -/
def isSixtieth (cs : List Char) : Bool :=
  match cs with
  | [a] => a.isDigit
  | [a, b] => '0' ≤ a && a ≤ '5' && b.isDigit
  | _ => false

/-- Parts to base 60 after a first one: at least one, and all of them well formed. -/
def isSexagesimal (first : List Char → Bool) (cs : List Char) : Bool :=
  match Chars.cut ':' cs with
  | head :: part :: parts => first head && (part :: parts).all isSixtieth
  | _ => false

/-- Whether a text spells an integer: binary, octal, decimal, hexadecimal or to base 60. -/
def isInt (text : List Char) : Bool :=
  match unsigned text with
  | '0' :: 'b' :: c :: cs => (c :: cs).all (oneOf "01_")
  | '0' :: 'x' :: c :: cs => (c :: cs).all (oneOf "0123456789abcdefABCDEF_")
  | '0' :: cs => cs.all (oneOf "01234567_")
  | c :: cs => c.isDigit && (isDigits cs ||
      isSexagesimal startsDigits (c :: cs))
  | [] => false

/-- An exponent: a mark, a sign and digits. -/
def isExponent (cs : List Char) : Bool :=
  match cs with
  | [] => true
  | mark :: sign :: c :: cs => oneOf "eE" mark && oneOf "-+" sign && (c :: cs).all Char.isDigit
  | _ => false

/-- A number with a point: whole digits, a point, digits and an exponent. -/
def isPointed (cs : List Char) : Bool :=
  match cs.dropWhile (oneOf "0123456789_") with
  | '.' :: rest =>
    startsDigits (cs.takeWhile (oneOf "0123456789_")) &&
      isExponent (rest.dropWhile (oneOf "0123456789_"))
  | _ => false

/-- Whether a text spells a floating-point number. -/
def isFloat (text : List Char) : Bool :=
  let cs := unsigned text
  isPointed cs ||
    (match text with
     | '.' :: rest => startsDigits (rest.takeWhile (oneOf "0123456789_")) &&
         isExponent (rest.dropWhile (oneOf "0123456789_"))
     | _ => false) ||
    (match (cs.dropWhile (· != '.')) with
     | '.' :: rest => isSexagesimal startsDigits (cs.takeWhile (· != '.')) && isDigits rest
     | _ => false) ||
    [".inf", ".Inf", ".INF"].contains (String.ofList cs) ||
    [".nan", ".NaN", ".NAN"].contains (String.ofList text)

/-- The words for truth values. -/
def truthWords : List String :=
  ["yes", "Yes", "YES", "no", "No", "NO", "true", "True", "TRUE", "false", "False", "FALSE",
   "on", "On", "ON", "off", "Off", "OFF"]

/-- What a text spells that is not empty. -/
def patternTag (cs : List Char) : Tag :=
  let s := String.ofList cs
  if ["~", "null", "Null", "NULL"].contains s then .null
  else if truthWords.contains s then .bool
  else if isFloat cs then .float
  else if isInt cs then .int
  else if s = "<<" then .merge
  else if s = "=" then .default
  else if (timestamp? cs).any fun t => t.time.isSome || cs.length == 10 then .timestamp
  else if ["!", "&", "*"].contains s then .unknown
  else .text

/-- What the text of a plain scalar spells. A line end after it does not count. -/
def impliedTag (text : String) : Tag :=
  let cs := text.toList
  if cs.isEmpty then .null
  else if cs.head? = some '\n' then .text
  else patternTag (if cs.getLast? = some '\n' then cs.dropLast else cs)

end TaskShell.Yaml
