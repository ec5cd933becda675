import TaskShell.Schema.Violation

/-!
# Building records

Records are built from texts: each non-empty text is read as its field says, and the whole is
checked against the schema.

## Main definitions

* `Schema.Error` — how building can fail.
* `Schema.read` — the fields that texts denote.
* `Schema.build` — the same, checked.
-/

set_option autoImplicit false

namespace TaskShell.Schema

/-- How a record can fail to be built. -/
inductive Error
  | unknownEntity (name : String)
  | field (problem : Field.Problem)
  | unreadable (error : Field.Unreadable)
  | violation (broken : Violation)
  deriving Repr

/-- What the user is told. -/
def Error.message : Error → String
  | .unknownEntity name => "Unknown entity: " ++ name
  | .field p => p.message
  | .unreadable e => e.message
  | .violation v => v.message

/-- The schema of a kind of records, by name. -/
def ofName (name : String) : Except Error Schema :=
  match Entity.ofName? name with
  | some e => .ok (ofEntity e)
  | none => .error (.unknownEntity name)

/-- The value of one field, if its text is there and not empty. -/
def readField (f : Field) (given : String → Option String) : Except Error Fields :=
  match (given f.name).filter (· != "") with
  | none => .ok []
  | some raw =>
    match f.problem? raw with
    | some problem => .error (.field problem)
    | none =>
      match f.convert raw with
      | .ok value => .ok [(f.name, value)]
      | .error error => .error (.unreadable error)

/-- The fields that texts denote, in the order of the schema. -/
def readFields (given : String → Option String) : List Field → Except Error Fields
  | [] => .ok []
  | f :: fs => do
    let first ← readField f given
    let rest ← readFields given fs
    return first ++ rest

/-- A record, or a part of one, that texts denote. -/
def build (s : Schema) (given : String → Option String) (isPartial : Bool := false) :
    Except Error Fields := do
  let record ← readFields given s.fields
  match Violation.reported? (s.fieldsViolations isPartial record) with
  | some v => throw (.violation v)
  | none => return record

end TaskShell.Schema
