import TaskShell.Document
import TaskShell.Instant
import TaskShell.Value.Display
import TaskShell.Vocabulary

/-!
# Records

A stored record: what every record has, and any further fields in one document.

## Main definitions

* `Record` — a stored record.
* `Record.further` — the fields that go into the document of a record.
* `Record.fields` — the record as it is read: one list of fields.
* `Record.line` — a record in one line of a listing.
-/

set_option autoImplicit false

namespace TaskShell

/-- A stored record. The fields in the document are none of `Record.ownFields`. -/
structure Record where
  kind : Entity
  id : String
  title : String
  parentId : Option String
  document : Document
  createdAt : Instant
  updatedAt : Instant
  deriving Repr, Inhabited

namespace Record

/-- The fields that a record keeps apart from the others. -/
def ownFields : List String := ["id", "title", "parentId", "createdAt", "updatedAt"]

/-- The fields that go into the document of a record. -/
def further (data : Fields) : Fields :=
  Entries.without data ownFields

/-- The fields that are read of the document. -/
def extra (r : Record) : Fields :=
  r.document.fields

/-- The parent of the record, unless it is empty. -/
def parent? (r : Record) : Option String :=
  r.parentId.filter (· != "")

/-- The record as it is read. An empty parent is left out. -/
def fields (r : Record) : Fields :=
  [("id", .text r.id), ("title", .text r.title)] ++
    r.parent?.toList.map (fun parent => ("parentId", .text parent)) ++ r.extra ++
    [("createdAt", .text r.createdAt.text), ("updatedAt", .text r.updatedAt.text)]

end Record

namespace Fields

/-- The text that shows a field, empty if the field is not there. -/
def display (record : Fields) (name : String) : String :=
  match Entries.value? record name with
  | some value => value.display
  | none => ""

/-- A field between two marks after a space, if it is given. -/
def mark (record : Fields) (name opening closing : String) : String :=
  match Entries.value? record name with
  | some value => if value.isGiven then " " ++ opening ++ value.display ++ closing else ""
  | none => ""

/-- A record in one line: the first eight characters of its id, its title, and in brackets its
status and priority. -/
def line (record : Fields) : String :=
  "  " ++ String.ofList ((display record "id").toList.take 8) ++ " - " ++
    display record "title" ++ mark record "status" "[" "]" ++ mark record "priority" "(" ")"

end Fields

end TaskShell
