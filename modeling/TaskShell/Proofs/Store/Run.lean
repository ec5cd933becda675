import TaskShell.Proofs.Store.Columns

/-!
# Histories of stores

A store goes through creations, updates and deletions, any of which may fail, while its clock may be
set at any time. Whatever its history, its records keep ids of their own and keep their own fields
apart from the others, which can be written again; and the ids that it draws come from its supply in
order.

## Main definitions

* `Store.Operation`, `Store.run` — an operation on a store, and the store after it.
* `Store.after` — a store after some operations.
* `Store.Intact` — what holds of the records all the time.

## Main results

* `Store.Intact.run`, `Store.Intact.after` — operations keep a store intact.
* `Store.exists_ids_after` — operations use up the first ids of the supply.
-/

set_option autoImplicit false

namespace TaskShell.Store

/-- What can happen to a store: an operation that may change it, or its clock is set. -/
inductive Operation
  | create (kind : Entity) (data : Fields)
  | update (kind : Entity) (id : Option String) (changes : Fields)
  | delete (kind : Entity) (id : Option String)
  | setClock (clock : Clock)

/-- A store after an operation, which may have failed. -/
def run (s : Store) : Operation → Store
  | .create kind data => (s.create kind data).2
  | .update kind id changes => (s.update kind id changes).2
  | .delete kind id => (s.delete kind id).2
  | .setClock clock => { s with clock }

/-- A store after some operations. -/
def after (s : Store) (ops : List Operation) : Store :=
  ops.foldl run s

/-- What holds of the records all the time: each has an id of its own, its own fields are apart from
the others, and these can be written again. -/
structure Intact (s : Store) : Prop where
  distinct : Distinct s.records
  apart : ∀ r ∈ s.records, r.IsApart
  writable : ∀ r ∈ s.records, r.IsWritable s.room

variable {s s' : Store} {kind : Entity} {id : Option String} {data changes : Fields}

/-! ## The room for documents -/

/-- A creation leaves the room for documents. -/
lemma Creates.room_eq {result : Except Error String × Store} (h : s.Creates kind data result) :
    result.2.room = s.room := by
  cases h <;> rfl

/-- An update leaves the room for documents. -/
lemma Updates.room_eq {result : Except Error Unit × Store} (h : s.Updates kind id changes result) :
    result.2.room = s.room := by
  cases h <;> rfl

/-- A deletion leaves the room for documents. -/
lemma Deletes.room_eq {result : Except Error Unit × Store} (h : s.Deletes kind id result) :
    result.2.room = s.room := by
  cases h <;> rfl

/-! ## Intact stores -/

/-- A store without records is intact. -/
lemma intact_empty (ids : IdSupply) (clock : Clock) (room : Json.Room) :
    (empty ids clock room).Intact :=
  ⟨List.Pairwise.nil, List.forall_mem_nil _, List.forall_mem_nil _⟩

namespace Intact

/-- A store with the records of an intact one and its room is intact. -/
lemma congr (h : s.Intact) (hrecords : s'.records = s.records) (hroom : s'.room = s.room) :
    s'.Intact := by
  refine ⟨?_, ?_, ?_⟩
  · rw [hrecords]
    exact h.distinct
  · rw [hrecords]
    exact h.apart
  · rw [hrecords, hroom]
    exact h.writable

/-- Nothing keeps the further fields of a record from being written, overlaid by fields that can be
kept. -/
lemma fault?_merged (h : s.Intact) {former : Record} (hformer : former ∈ s.records)
    (hchanges : changes.Keepable s.room) : Json.fault? s.room.levels
      (.ofFields (Entries.overlay former.extra (Record.further changes))) = none :=
  (Json.fault?_overlay_eq_none_iff (h.writable former hformer)
    (Value.isJson_ofFields_iff.1 hchanges.isJson).1).2 hchanges.fault?_eq_none

/-- A creation keeps a store intact. -/
lemma create (h : s.Intact) (kind : Entity) (data : Fields) : (s.create kind data).2.Intact := by
  have hends := s.create_ends kind data
  have hroom := (s.creates kind data).room_eq
  rcases hrun : s.create kind data with ⟨e | id, s'⟩ <;> rw [hrun] at hends hroom
  · exact h.congr hends hroom
  · obtain ⟨r, -, hrecords, hfree, hnew, hwritable⟩ := hends
    refine ⟨?_, ?_, ?_⟩
    · rw [hrecords]
      exact h.distinct.append hfree
    · rw [hrecords]
      exact List.forall_mem_append.2 ⟨h.apart, List.forall_mem_singleton.2 hnew.isApart⟩
    · rw [hrecords, hroom]
      exact List.forall_mem_append.2 ⟨h.writable, List.forall_mem_singleton.2 hwritable⟩

/-- What holds of records and of one in the place of some of them holds of them all. -/
lemma forall_mem_replaced {P : Record → Prop} {records : List Record} {r : Record}
    (hrecords : ∀ q ∈ records, P q) (hr : P r) : ∀ q ∈ replaced records r, P q := by
  refine List.forall_mem_map.2 fun q hq => ?_
  split
  · exact hr
  · exact hrecords q hq

/-- An update keeps a store intact. -/
lemma update (h : s.Intact) (kind : Entity) (id : Option String) (changes : Fields) :
    (s.update kind id changes).2.Intact := by
  have hends := s.update_ends kind id changes
  have hroom := (s.updates kind id changes).room_eq
  rcases hrun : s.update kind id changes with ⟨e | _, s'⟩ <;> rw [hrun] at hends hroom
  · exact h.congr hends hroom
  · obtain ⟨former, r, hfound, hrecords, hmerged, hwritable⟩ := hends
    have hformer : former ∈ s.records := (find?_eq_some hfound).1
    refine ⟨?_, ?_, ?_⟩
    · rw [hrecords]
      exact h.distinct.replaced hformer hmerged.id_eq
    · rw [hrecords]
      exact forall_mem_replaced h.apart (hmerged.isApart (h.apart former hformer))
    · rw [hrecords, hroom]
      exact forall_mem_replaced h.writable hwritable

/-- A deletion keeps a store intact. -/
lemma delete (h : s.Intact) (kind : Entity) (id : Option String) :
    (s.delete kind id).2.Intact := by
  have hends := s.delete_ends kind id
  have hroom := (s.deletes kind id).room_eq
  rcases hrun : s.delete kind id with ⟨e | _, s'⟩ <;> rw [hrun] at hends hroom
  · exact h.congr hends hroom
  · obtain ⟨r, -, hrecords⟩ := hends
    have hkept : ∀ q ∈ s'.records, q ∈ s.records := by
      rw [hrecords]
      exact fun q hq => (List.mem_filter.1 hq).1
    refine ⟨?_, fun q hq => h.apart q (hkept q hq), fun q hq => ?_⟩
    · rw [hrecords]
      exact List.Pairwise.filter _ h.distinct
    · rw [hroom]
      exact h.writable q (hkept q hq)

/-- An operation keeps a store intact. -/
theorem run (h : s.Intact) (op : Operation) : (s.run op).Intact := by
  cases op with
  | create kind data => exact h.create kind data
  | update kind id changes => exact h.update kind id changes
  | delete kind id => exact h.delete kind id
  | setClock clock => exact h.congr rfl rfl

/-- Operations keep a store intact. -/
theorem after (h : s.Intact) (ops : List Operation) : (s.after ops).Intact := by
  induction ops generalizing s with
  | nil => exact h
  | cons op ops ih => exact ih (h.run op)

end Intact

/-- Operations leave the room for documents. -/
theorem room_after (s : Store) (ops : List Operation) : (s.after ops).room = s.room := by
  induction ops generalizing s with
  | nil => rfl
  | cons op ops ih =>
    have hrun : (s.run op).room = s.room := by
      cases op with
      | create kind data => exact (s.creates kind data).room_eq
      | update kind id changes => exact (s.updates kind id changes).room_eq
      | delete kind id => exact (s.deletes kind id).room_eq
      | setClock clock => rfl
    exact (ih (s.run op)).trans hrun

/-! ## The supply of ids -/

/-- A creation uses up the first ids of the supply, or none. -/
lemma Creates.exists_ids {result : Except Error String × Store} (h : s.Creates kind data result) :
    ∃ n, result.2.ids = s.ids.drop n := by
  cases h with
  | untitled | endless => exact ⟨0, s.ids.drop_zero.symm⟩
  | @undated n | @unwritable n | @unfit n | @stored n => exact ⟨n + 1, rfl⟩

/-- An update uses up no ids. -/
lemma Updates.ids_eq {result : Except Error Unit × Store} (h : s.Updates kind id changes result) :
    result.2.ids = s.ids := by
  cases h <;> rfl

/-- A deletion uses up no ids. -/
lemma Deletes.ids_eq {result : Except Error Unit × Store} (h : s.Deletes kind id result) :
    result.2.ids = s.ids := by
  cases h <;> rfl

/-- An operation uses up the first ids of the supply, or none. -/
lemma exists_ids_run (s : Store) (op : Operation) : ∃ n, (s.run op).ids = s.ids.drop n := by
  have hnone : s.ids = s.ids.drop 0 := s.ids.drop_zero.symm
  cases op with
  | create kind data => exact (s.creates kind data).exists_ids
  | update kind id changes => exact ⟨0, (s.updates kind id changes).ids_eq.trans hnone⟩
  | delete kind id => exact ⟨0, (s.deletes kind id).ids_eq.trans hnone⟩
  | setClock clock => exact ⟨0, hnone⟩

/-- Operations use up the first ids of the supply. -/
theorem exists_ids_after (s : Store) (ops : List Operation) :
    ∃ n, (s.after ops).ids = s.ids.drop n := by
  induction ops generalizing s with
  | nil => exact ⟨0, s.ids.drop_zero.symm⟩
  | cons op ops ih =>
    obtain ⟨n, hn⟩ := s.exists_ids_run op
    obtain ⟨m, hm⟩ := ih (s.run op)
    refine ⟨n + m, ?_⟩
    change ((s.run op).after ops).ids = _
    rw [hm, hn, IdSupply.drop_drop]

end TaskShell.Store
