import TaskShell.Schema.Basic
import TaskShell.Value.Display

/-!
# Checking records

A record is checked against its schema before it is stored. Of several violations the one nearest
to the root of the record is reported; of these the one whose path is last in alphabetical order;
of these the first found.

## Main definitions

* `Schema.Violation` — how a value can break a schema, and where.
* `Schema.violations` — all violations of a record.
* `Schema.violation?` — the one that is reported.
-/

set_option autoImplicit false

namespace TaskShell

/-- A step into a value: a field or a place in a list. -/
inductive PathStep
  | field (name : String)
  | item (index : Nat)
  deriving DecidableEq, Repr

/-- A step as it is written in a path. -/
def PathStep.text : PathStep → String
  | .field name => name
  | .item index => toString index

/-- Whether a step comes before another: places by number, fields by name. -/
def PathStep.before : PathStep → PathStep → Bool
  | .item i, .item j => i < j
  | .item _, .field _ => true
  | .field _, .item _ => false
  | .field a, .field b => a < b

/-- Whether a path comes before another, step by step. -/
def PathStep.pathBefore : List PathStep → List PathStep → Bool
  | [], [] => false
  | [], _ :: _ => true
  | _ :: _, [] => false
  | a :: as, b :: bs => a.before b || (a == b && pathBefore as bs)

namespace Schema

/-- What is wrong with a value. -/
inductive Fault
  | wrongType (value : Value) (expected : String)
  | empty (value : Value)
  | notListed (value : Value) (words : List String)
  | tooLarge (value : Value) (bound : Int)
  | tooSmall (value : Value) (bound : Int)
  | unexpected (names : List String)
  | missing (name : String)
  deriving Repr

/-- A fault and the path to the value that has it. -/
structure Violation where
  path : List PathStep
  fault : Fault
  deriving Repr

namespace Violation

/-- The literals of words in brackets. -/
def wordList (words : List String) : String :=
  "[" ++ Text.join ", " (words.map Text.literal) ++ "]"

/-- What is wrong, without the place. -/
def Fault.message : Fault → String
  | .wrongType value expected => value.literal ++ " is not of type '" ++ expected ++ "'"
  | .empty value => value.literal ++ " should be non-empty"
  | .notListed value words => value.literal ++ " is not one of " ++ wordList words
  | .tooLarge value bound =>
    value.literal ++ " is greater than the maximum of " ++ toString bound
  | .tooSmall value bound => value.literal ++ " is less than the minimum of " ++ toString bound
  | .unexpected names =>
    "Additional properties are not allowed (" ++ Text.join ", " (names.map Text.literal) ++
      (if names.length = 1 then " was" else " were") ++ " unexpected)"
  | .missing name => Text.literal name ++ " is required"

/-- What is wrong, and where unless it is the record itself. -/
def message (v : Violation) : String :=
  match v.path with
  | [] => Fault.message v.fault
  | path => Text.join "." (path.map PathStep.text) ++ ": " ++ Fault.message v.fault

/-- Whether a violation is reported rather than an earlier one. -/
def outranks (v earlier : Violation) : Bool :=
  v.path.length < earlier.path.length ||
    (v.path.length == earlier.path.length && PathStep.pathBefore earlier.path v.path)

/-- The violation that is reported. -/
def reported? : List Violation → Option Violation
  | [] => none
  | v :: vs => some (vs.foldl (fun best v => if v.outranks best then v else best) v)

end Violation

/-- The faults of a number: below 0 or above 100, where the field is bounded. -/
def rangeFaults (value : Value) : List Fault :=
  match value with
  | .int n => (if n < 0 then [.tooSmall value 0] else []) ++
      (if 100 < n then [.tooLarge value 100] else [])
  | .float x => (if x.lessThan 0 then [.tooSmall value 0] else []) ++
      (if x.greaterThan 100 then [.tooLarge value 100] else [])
  | _ => [.wrongType value "number"]

/-- The violations of the items of a list that are no texts. -/
def itemViolations (name : String) (items : List Value) : List Violation :=
  (items.zipIdx.filter fun (item, _) => match item with | .text _ => false | _ => true).map
    fun (item, index) => ⟨[.field name, .item index], .wrongType item "string"⟩

/-- The violations of the value of a field. -/
def fieldViolations (f : Field) (value : Value) : List Violation :=
  let here (fault : Fault) : Violation := ⟨[.field f.name], fault⟩
  match f.kind, value with
  | .choice words, .text s => if words.contains s then [] else [here (.notListed value words)]
  | .choice words, _ => [here (.wrongType value "string"), here (.notListed value words)]
  | .list, .list items => itemViolations f.name items
  | .list, _ => [here (.wrongType value "array")]
  | .number, .int _ | .number, .float _ =>
    if f.name = "progress" then (rangeFaults value).map here else []
  | .number, _ => [here (.wrongType value "number")]
  | .text, .text s => if s = "" then [here (.empty value)] else []
  | .text, _ => [here (.wrongType value "string")]

/-- The fields that a whole record must have. -/
def required (s : Schema) : List String :=
  "title" :: (if s.requiresParent then ["parentId"] else [])

/-- The fields of a record that the schema does not have, in alphabetical order. -/
def extraneous (s : Schema) (record : Fields) : List String :=
  (record.keys.filter fun key => !(s.fields.any fun f => f.name == key)).mergeSort
    fun a b => !(b < a)

/-- The violations of a record with these fields. A part of a record may lack any field. -/
def fieldsViolations (s : Schema) (isPartial : Bool) (record : Fields) : List Violation :=
  let fieldwise := s.fields.flatMap fun f =>
    match record.value? f.name with
    | some value => fieldViolations f value
    | none => []
  let extra :=
    match s.extraneous record with
    | [] => []
    | names => [⟨[], .unexpected names⟩]
  let missing :=
    if isPartial then []
    else (s.required.filter fun name => (record.value? name).isNone).map
      fun name => ⟨[], .missing name⟩
  fieldwise ++ extra ++ missing

/-- The text keys of a map, as fields. -/
def fieldsOf (entries : List (Value × Value)) : Fields :=
  entries.map fun (key, value) => (key.display, value)

/-- The violations of a value as a record. -/
def violations (s : Schema) (isPartial : Bool) : Value → List Violation
  | .map entries => s.fieldsViolations isPartial (fieldsOf entries)
  | value => [⟨[], .wrongType value "object"⟩]

/-- The violation that is reported. -/
def violation? (s : Schema) (isPartial : Bool) (value : Value) : Option Violation :=
  Violation.reported? (s.violations isPartial value)

end Schema

end TaskShell
