import TaskShell.Number.Column
import TaskShell.Number.Power
import TaskShell.Record
import TaskShell.Store.IdSupply
import TaskShell.Text.Case

/-!
# The record store

Records of all kinds in the order in which they were created. Ids are unique over all kinds, and
they are compared without regard to the case of basic letters; what follows a null character in an
id tells it apart only by its length.

## Main definitions

* `Store` — the records, the supply of ids, the clock and the room for documents.
* `Store.Error` — how an operation can fail.
* `Store.create`, `Store.find?`, `Store.list`, `Store.update`, `Store.delete`, `Store.count` —
  the operations. Those that change the store answer with a result and the store afterwards.
-/

set_option autoImplicit false

namespace TaskShell

/-- Records, the ids to come and the clock, and the room that the call stack has for writing
documents. -/
structure Store where
  records : List Record
  ids : IdSupply
  clock : Clock
  room : Json.Room

namespace Store

/-- How an operation can fail. -/
inductive Error
  | unknownKind (name : String)
  | titleRequired
  | notFound (kind : Entity) (id : Option String)
  | titleNull
  | idTaken
  | unsupported (place : Nat) (typeName : String)
  | integerRange
  | idsExhausted
  | dateRange
  | unwritable (fault : Json.Fault)
  deriving DecidableEq, Repr

/-- What the user is told. -/
def Error.message : Error → String
  | .unknownKind name => "Unknown entity type: " ++ name
  | .titleRequired => "title is required"
  | .notFound kind id =>
    Text.capitalize kind.name ++ " not found: " ++ (Value.ofText? id).display
  | .titleNull => "NOT NULL constraint failed: records.title"
  | .idTaken => "UNIQUE constraint failed: records.id"
  | .unsupported place typeName =>
    "Error binding parameter " ++ toString place ++ ": type '" ++ typeName ++
      "' is not supported"
  | .integerRange => "Python int too large to convert to SQLite INTEGER"
  | .idsExhausted => "no free id"
  | .dateRange => "date value out of range"
  | .unwritable fault => fault.message

/-- A store without records. -/
def empty (ids : IdSupply) (clock : Clock) (room : Json.Room := .standard) : Store :=
  ⟨[], ids, clock, room⟩

/-! ## Looking up -/

/-- The part of an id that is told apart: the text before the first null character. -/
def significantPart (id : String) : List Char :=
  (Text.foldBasic id).takeWhile (· != '\x00')

/-- Whether two ids are equal, the case of basic letters aside. After a null character only their
lengths in bytes count. -/
def sameId (a b : String) : Bool :=
  significantPart a == significantPart b && a.utf8ByteSize == b.utf8ByteSize

/-- Whether a record of any kind has an id. -/
def isTaken (s : Store) (id : String) : Bool :=
  s.records.any fun r => sameId r.id id

/-- Whether a record is the one of a kind and an id. -/
def isNamed (kind : Entity) (id : String) (r : Record) : Bool :=
  r.kind == kind && sameId r.id id

/-- The record of a kind with an id. -/
def find? (s : Store) (kind : Entity) (id : Option String) : Option Record :=
  id.bind fun id => s.records.find? (isNamed kind id)

/-- The kind of records with a name. -/
def kindNamed (name : String) : Except Error Entity :=
  match Entity.ofName? name with
  | some kind => .ok kind
  | none => .error (.unknownKind name)

/-- Whether a record belongs to a parent; any record does if none is asked for. -/
def hasParent (parent : Option String) (r : Record) : Bool :=
  match parent.filter (· != "") with
  | none => true
  | some p =>
    match r.parentId with
    | some q => sameId q p
    | none => false

/-- The records of a kind, of one parent if one is asked for, oldest first; records of the same
age in the order in which they were created. -/
def list (s : Store) (kind : Entity) (parent : Option String := none) : List Record :=
  (s.records.filter fun r => r.kind == kind && hasParent parent r).mergeSort
    fun a b => !(b.createdAt.text < a.createdAt.text)

/-- The number of records of a kind, by name, or of all kinds. -/
def count (s : Store) (kind : Option String := none) : Nat :=
  match kind.filter (· != "") with
  | some name => (s.records.filter fun r => r.kind.name == name).length
  | none => s.records.length

/-! ## Text columns -/

/-- The text that a column keeps for a value; null is kept as nothing. `place` numbers the column
in the statement that stores the value. -/
def columnText (place : Nat) : Value → Except Error (Option String)
  | .null => .ok none
  | .text s => .ok (some s)
  | .bool value => .ok (some (if value then "1" else "0"))
  | .int n =>
    if -Number.wordEnd ≤ n ∧ n < Number.wordEnd then .ok (some (toString n)) else .error .integerRange
  | .float .nan => .ok none
  | .float x => .ok (some x.columnText)
  | .list _ => .error (.unsupported place "list")
  | .map _ => .error (.unsupported place "dict")

/-- The value of a field, null if the field is not there. -/
def fieldOrNull (data : Fields) (name : String) : Value :=
  (Entries.value? data name).getD .null

/-- A title column, which cannot be null. -/
def titleOf : Option String → Except Error String
  | some title => .ok title
  | none => .error .titleNull

/-! ## Changing the store -/

/-- The time of the clock, and the store after the clock has been read. -/
def readClock (s : Store) : Except Error (Instant × Store) :=
  match s.clock.read? with
  | some now => .ok (now, { s with clock := s.clock.advance })
  | none => .error .dateRange

/-- Fields as the document of a record. -/
def documentOf (s : Store) (fields : Fields) : Except Error Document :=
  (Document.ofFields s.room fields).mapError .unwritable

/-- The store after an id has been drawn from it in vain. -/
def passId (s : Store) : Store :=
  match s.ids.draw? (fun _ => false) 1 with
  | some (_, ids) => { s with ids }
  | none => s

/-- The store with one more record. The ids are the key of the table, which takes none twice. -/
def insert (s : Store) (r : Record) : Except Error Store :=
  if s.isTaken r.id then .error .idTaken else .ok { s with records := s.records ++ [r] }

/-- The store with a record in the place of the one with its kind and id. -/
def replace (s : Store) (changed : Record) : Store :=
  let swap (r : Record) : Record := if isNamed changed.kind changed.id r then changed else r
  { s with records := s.records.map swap }

/-- The store without the record of a kind with an id. -/
def erase (s : Store) (kind : Entity) (id : String) : Store :=
  { s with records := s.records.filter fun r => !isNamed kind id r }

/-- The columns of a new record. -/
def newColumns (data : Fields) : Except Error (String × Option String) := do
  let parent ← columnText 3 (fieldOrNull data "parentId")
  let title ← columnText 4 (fieldOrNull data "title")
  return (← titleOf title, parent)

/-- A new record, with the first free id and the time of the clock. The fields that records keep
apart are ignored, save title and parent; the others are written before the columns are filled. -/
def create (s : Store) (kind : Entity) (data : Fields) : Except Error String × Store :=
  if !(fieldOrNull data "title").isGiven then (.error .titleRequired, s)
  else
    match s.ids.draw? s.isTaken (s.records.length + 1) with
    | none => (.error .idsExhausted, s)
    | some (id, ids) =>
      let s := { s with ids }
      match s.readClock with
      | .error e => (.error e, s)
      | .ok (now, s) =>
        match s.documentOf (Record.further data) with
        | .error e => (.error e, s)
        | .ok document =>
          match newColumns data with
          | .error e => (.error e, s)
          | .ok (title, parentId) =>
            let record : Record :=
              { kind, id, title, parentId, document, createdAt := now, updatedAt := now }
            match s.insert record with
            | .error e => (.error e, s)
            | .ok s => (.ok id, s)

/-- The columns of a record after some fields have been replaced. -/
def mergedColumns (r : Record) (changes : Fields) : Except Error (String × Option String) := do
  let title ← columnText 1 ((Entries.value? changes "title").getD (.text r.title))
  let parent ← columnText 2 ((Entries.value? changes "parentId").getD (.ofText? r.parent?))
  return (← titleOf title, parent)

/-- Some fields of a record replaced, and the time of the clock as the time of its last change. All
further fields are written anew, and then the clock is read. -/
def update (s : Store) (kind : Entity) (id : Option String) (changes : Fields) :
    Except Error Unit × Store :=
  match s.find? kind id with
  | none => (.error (.notFound kind id), s)
  | some r =>
    match s.documentOf (Entries.overlay r.extra (Record.further changes)) with
    | .error e => (.error e, s)
    | .ok document =>
      match s.readClock with
      | .error e => (.error e, s)
      | .ok (now, s) =>
        match mergedColumns r changes with
        | .error e => (.error e, s)
        | .ok (title, parentId) =>
          (.ok (), s.replace { r with title, parentId, document, updatedAt := now })

/-- A record removed. -/
def delete (s : Store) (kind : Entity) (id : Option String) : Except Error Unit × Store :=
  match s.find? kind id with
  | none => (.error (.notFound kind id), s)
  | some r => (.ok (), s.erase kind r.id)

end Store

end TaskShell
