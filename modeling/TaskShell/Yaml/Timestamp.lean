import TaskShell.Text.Words
import TaskShell.Yaml.Error

/-!
# Dates and times in YAML texts

## Main definitions

* `Yaml.Timestamp` — the parts of a date or a time.
* `Yaml.timestamp?` — the parts of a text that spells one.
* `Yaml.Timestamp.problem?` — what keeps it from existing.
* `Yaml.Timestamp.shown`, `Yaml.Timestamp.literal` — its text on its own and in a collection.
* `Yaml.Timestamp.sameMoment` — whether two of them are the same.
-/

set_option autoImplicit false

namespace TaskShell.Yaml

/-- Whether a character is one of some. -/
def oneOf (chars : String) (c : Char) : Bool :=
  chars.toList.contains c

/-- The parts of a date, with a time of day and an offset where they are written. -/
structure Timestamp where
  year : Nat
  month : Nat
  day : Nat
  time : Option (Nat × Nat × Nat × Nat) := none
  offset : Option Int := none
  deriving DecidableEq, Repr

/-- Digits at the start of a text, at least `least` and at most `most`: their number, and the
rest. -/
def takeDigits? (least most : Nat) (cs : List Char) : Option (Nat × List Char) :=
  let digits := (cs.take most).takeWhile Char.isDigit
  if digits.length < least then none
  else some (digits.foldl (fun n d => 10 * n + (d.toNat - 48)) 0, cs.drop digits.length)

/-- A character at the start of a text, passed over. -/
def pass? (c : Char) : List Char → Option (List Char)
  | c' :: cs => if c' = c then some cs else none
  | [] => none

/-- The offset at the end of a time: none, `Z`, or hours with optional minutes; in minutes. -/
def offset? (cs : List Char) : Option (Option Int) :=
  match cs.dropWhile (oneOf " \t") with
  | [] => if cs.isEmpty then some none else none
  | ['Z'] => some (some 0)
  | sign :: rest =>
    if oneOf "+-" sign then do
      let (hours, rest) ← takeDigits? 1 2 rest
      let minutes ←
        match rest with
        | [] => pure 0
        | ':' :: rest => do
          let (minutes, rest) ← takeDigits? 2 2 rest
          if rest.isEmpty then pure minutes else none
        | _ => none
      let total : Int := 60 * hours + minutes
      return some (if sign = '-' then -total else total)
    else none

/-- The parts of a text that spells a date or a time. -/
def timestamp? (cs : List Char) : Option Timestamp := do
  let (year, rest) ← takeDigits? 4 4 cs
  let rest ← pass? '-' rest
  let (month, rest) ← takeDigits? 1 2 rest
  let rest ← pass? '-' rest
  let (day, rest) ← takeDigits? 1 2 rest
  if rest.isEmpty then return { year, month, day }
  else
    let rest ←
      match rest with
      | 'T' :: rest | 't' :: rest => some rest
      | c :: rest => if oneOf " \t" c then some (rest.dropWhile (oneOf " \t")) else none
      | [] => none
    let (hour, rest) ← takeDigits? 1 2 rest
    let rest ← pass? ':' rest
    let (minute, rest) ← takeDigits? 2 2 rest
    let rest ← pass? ':' rest
    let (second, rest) ← takeDigits? 2 2 rest
    let (fraction, rest) :=
      match rest with
      | '.' :: rest => (rest.takeWhile Char.isDigit, rest.dropWhile Char.isDigit)
      | rest => ([], rest)
    let micros := ((fraction ++ List.replicate 6 '0').take 6).foldl
      (fun n d => 10 * n + (d.toNat - 48)) 0
    let offset ← offset? rest
    return { year, month, day, time := some (hour, minute, second, micros), offset }

namespace Timestamp

/-- A number in decimal with leading zeros up to a width. -/
def padded (width n : Nat) : String :=
  let digits := toString n
  String.ofList (List.replicate (width - digits.length) '0') ++ digits

/-- The days of a month. -/
def daysInMonth (year month : Nat) : Nat :=
  if month = 2 then (if year % 4 = 0 ∧ (year % 100 ≠ 0 ∨ year % 400 = 0) then 29 else 28)
  else if [4, 6, 9, 11].contains month then 30 else 31

/-- What keeps a date from existing. -/
def dateProblem? (t : Timestamp) : Option DateProblem :=
  if t.year = 0 then some .year
  else if t.month = 0 ∨ 12 < t.month then some .month
  else if t.day = 0 ∨ daysInMonth t.year t.month < t.day then some .day
  else none

/-- What keeps a time of day from existing. -/
def timeProblem? (hour minute second : Nat) : Option DateProblem :=
  if 23 < hour then some .hour
  else if 59 < minute then some .minute
  else if 59 < second then some .second
  else none

/-- What keeps an offset from existing: it has to be less than a day. -/
def offsetProblem? (offset : Option Int) : Option DateProblem :=
  (offset.filter fun minutes => 1440 ≤ minutes.natAbs).map .offset

/-- What keeps a date or a time from existing. The offset is looked at first. -/
def problem? (t : Timestamp) : Option DateProblem :=
  match t.time with
  | none => t.dateProblem?
  | some (hour, minute, second, _) =>
    ((offsetProblem? t.offset).or t.dateProblem?).or (timeProblem? hour minute second)

/-- The text of a date. -/
def dateText (t : Timestamp) : String :=
  padded 4 t.year ++ "-" ++ padded 2 t.month ++ "-" ++ padded 2 t.day

/-- The text of an offset. -/
def offsetText (minutes : Int) : String :=
  (if minutes < 0 then "-" else "+") ++ padded 2 (minutes.natAbs / 60) ++ ":" ++
    padded 2 (minutes.natAbs % 60)

/-- The text of a date or a time on its own. -/
def shown (t : Timestamp) : String :=
  match t.time with
  | none => t.dateText
  | some (hour, minute, second, micros) =>
    let fraction := if micros = 0 then "" else "." ++ padded 6 micros
    t.dateText ++ " " ++ padded 2 hour ++ ":" ++ padded 2 minute ++ ":" ++ padded 2 second ++
      fraction ++ (t.offset.map offsetText).getD ""

/-- The text of an offset in a collection. -/
def zoneLiteral (minutes : Int) : String :=
  ", tzinfo=" ++
    if minutes = 0 then "datetime.timezone.utc" else "datetime.timezone(" ++ spanText minutes ++ ")"

/-- The text of a date or a time in a collection. Seconds and their fraction are left out where
nothing but zeros remains. -/
def literal (t : Timestamp) : String :=
  let numbers (ns : List Nat) : String := ", ".intercalate (ns.map toString)
  match t.time with
  | none => "datetime.date(" ++ numbers [t.year, t.month, t.day] ++ ")"
  | some (hour, minute, second, micros) =>
    let seconds :=
      if micros ≠ 0 then [second, micros] else if second ≠ 0 then [second] else []
    "datetime.datetime(" ++ numbers ([t.year, t.month, t.day, hour, minute] ++ seconds) ++
      (t.offset.map zoneLiteral).getD "" ++ ")"

/-- The days before a date, counted from the start of the year 1. -/
def daysBefore (t : Timestamp) : Nat :=
  let years := t.year - 1
  let inMonths := (List.range' 1 (t.month - 1)).foldl
    (fun days month => days + daysInMonth t.year month) 0
  365 * years + years / 4 - years / 100 + years / 400 + inMonths + (t.day - 1)

/-- The microseconds from the start of the year 1 to a time with an offset. -/
def micros? (t : Timestamp) : Option Int := do
  let (hour, minute, second, micros) ← t.time
  let minutes : Int := 1440 * t.daysBefore + 60 * hour + minute - (← t.offset)
  return 1000000 * (60 * minutes + second) + micros

/-- Whether two dates or times are the same. Times with an offset are compared in universal time; no
other time is the same as one of them. -/
def sameMoment (a b : Timestamp) : Bool :=
  match a.micros?, b.micros? with
  | some m, some n => m == n
  | none, none => a == b
  | _, _ => false

end Timestamp

end TaskShell.Yaml
