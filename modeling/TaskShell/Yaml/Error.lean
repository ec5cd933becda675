import TaskShell.Text.Literal

/-!
# Failures of reading YAML

## Main definitions

* `Yaml.Error` — why a text yields no value.
* `Yaml.Error.message` — what the user is told.
-/

set_option autoImplicit false

namespace TaskShell.Yaml

/-- Why a date or a time does not exist. The offset is in minutes. -/
inductive DateProblem
  | year
  | month
  | day
  | hour
  | minute
  | second
  | offset (minutes : Int)
  deriving DecidableEq, Repr

/-- Why a text yields no value: it is malformed, or it is well formed and spells a value that does
not exist. -/
inductive Error
  | malformed
  | codePoint (code : Nat)
  | date (problem : DateProblem)
  | noTimestamp
  | timestampOfMapping
  | integer (base : Nat) (text : String)
  | tooManyDigits (count : Nat)
  | float (text : String)
  | hugePart
  | truth (word : String)
  | emptyNumber
  deriving DecidableEq, Repr

/-- A span of minutes: days, which alone may be negative, and seconds. -/
def spanText (minutes : Int) : String :=
  let days := Int.fdiv minutes 1440
  let seconds := 60 * Int.fmod minutes 1440
  let parts := (if days = 0 then [] else ["days=" ++ toString days]) ++
    (if seconds = 0 then [] else ["seconds=" ++ toString seconds])
  "datetime.timedelta(" ++ (if parts.isEmpty then "0" else ", ".intercalate parts) ++ ")"

/-- What the user is told. -/
def DateProblem.message : DateProblem → String
  | .year => "year 0 is out of range"
  | .month => "month must be in 1..12"
  | .day => "day is out of range for month"
  | .hour => "hour must be in 0..23"
  | .minute => "minute must be in 0..59"
  | .second => "second must be in 0..59"
  | .offset minutes =>
    "offset must be a timedelta strictly between -timedelta(hours=24) and timedelta(hours=24), not "
      ++ spanText minutes ++ "."

/-- What the user is told. The text of a wrong integer is cut. -/
def Error.message : Error → String
  | .malformed => "malformed"
  | .codePoint code =>
    if code < 2147483648 then "chr() arg not in range(0x110000)"
    else "Python int too large to convert to C int"
  | .date problem => problem.message
  | .noTimestamp => "'NoneType' object has no attribute 'groupdict'"
  | .timestampOfMapping => "expected string or bytes-like object, got 'list'"
  | .integer base text =>
    "invalid literal for int() with base " ++ toString base ++ ": " ++
      String.ofList ((Text.literal text).toList.take 200)
  | .tooManyDigits count =>
    "Exceeds the limit (4300 digits) for integer string conversion: value has " ++
      toString count ++ " digits; use sys.set_int_max_str_digits() to increase the limit"
  | .float text => "could not convert string to float: " ++ Text.literal text
  | .hugePart => "int too large to convert to float"
  | .truth word => Text.literal word
  | .emptyNumber => "string index out of range"

end TaskShell.Yaml
