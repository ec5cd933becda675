import TaskShell.Json
import TaskShell.Store.Basic

/-!
# Archives

Records as a text that a file can keep.

## Main definitions

* `Record.toValue`, `Record.ofValue?` — a record as a value.
* `Store.archive`, `Store.unarchive?` — records as a text.
-/

set_option autoImplicit false

namespace TaskShell

namespace Record

/-- A record as a value. -/
def toValue (r : Record) : Value :=
  .ofFields
    [("kind", .text r.kind.name), ("id", .text r.id), ("title", .text r.title),
     ("parentId", .ofText? r.parentId), ("extra", .ofFields r.extra),
     ("createdAt", .int r.createdAt.micros), ("updatedAt", .int r.updatedAt.micros)]

/-- The record that a value stands for. -/
def ofValue? : Value → Option Record
  | .map [(.text "kind", .text kind), (.text "id", .text id), (.text "title", .text title),
      (.text "parentId", parent), (.text "extra", .map extra),
      (.text "createdAt", .int created), (.text "updatedAt", .int updated)] => do
    let kind ← Entity.ofName? kind
    let parentId ← match parent with
      | .null => some none
      | .text s => some (some s)
      | _ => none
    let document ← (Document.ofFields .standard (extra.filterMap Value.textEntry?)).toOption
    return { kind, id, title, parentId, document,
             createdAt := ⟨created.toNat⟩, updatedAt := ⟨updated.toNat⟩ }
  | _ => none

end Record

namespace Store

/-- The text that keeps records. -/
def archive (records : List Record) : String :=
  Json.render (.list (records.map Record.toValue))

/-- The records that a text keeps; the empty text keeps none. -/
def unarchive? (text : String) : Option (List Record) :=
  if text = "" then some []
  else
    match Json.parse? text with
    | some (.list items) => items.mapM Record.ofValue?
    | _ => none

end Store

end TaskShell
