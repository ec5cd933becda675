import TaskShell.Json

/-!
# Documents

Fields that are kept as one text, the text of a map. Only what has been written is a document, and
reading finds as much room on the call stack as writing did, so every document can be read.

## Main definitions

* `Document` — fields as a text that has been written.
* `Document.ofFields` — fields written, or what keeps them from being written.
* `Document.fields` — what is read of a document.
-/

set_option autoImplicit false

namespace TaskShell

/-- Fields as a text that has been written. -/
structure Document where
  text : String
  isWritten : ∃ levels fields, Json.fault? levels (.ofFields fields) = none ∧
    text = Json.render (.ofFields fields)
  deriving Repr

namespace Document

instance : Inhabited Document :=
  ⟨⟨Json.render (.ofFields []), 1, [], rfl, rfl⟩⟩

/-- Fields written, or what keeps them from being written. -/
def ofFields (room : Json.Room) (fields : Fields) : Except Json.Fault Document :=
  match h : Json.fault? room.levels (.ofFields fields) with
  | none => .ok ⟨Json.render (.ofFields fields), room.levels, fields, h, rfl⟩
  | some fault => .error fault

/-- What is read of a document. It is the text of a map, so the last case never applies
(`Document.parse?_text`). -/
def fields (d : Document) : Fields :=
  match Json.parse? d.text with
  | some (.map entries) => entries.filterMap Value.textEntry?
  | _ => []

end Document

end TaskShell
