import TaskShell.Proofs.Store.Operations

/-!
# Records as they are read

A record is kept in columns, with its further fields in one document beside them, and it is read as
one list of fields. Whatever text or null was given for title and parent comes back from the columns,
save that a parent that is null or empty is left out; the further fields come back as they were given
if JSON has them.

## Main definitions

* `Fields.IsDraft`, `Fields.IsPatch` — fields that a record can be made of, and changes to a record.
* `Fields.Keepable` — fields whose further ones JSON has, and that fit the room for documents.
* `Record.IsApart` — a record whose further fields have none of the names of its own.

## Main results

* `Store.exists_newColumns`, `Store.exists_mergedColumns` — drafts and patches fit the columns.
* `Store.exists_create_eq_ok_iff`, `Store.update_eq_ok_iff`, `Store.delete_eq_ok_iff` — when
  operations on drafts and patches succeed.
* `Record.value?_fields` — what is read of a record under each key.
* `Record.IsNew.value?_extra`, `Record.IsMerged.value?_extra` — the further fields of new records and
  of changed ones.
-/

set_option autoImplicit false

namespace TaskShell

/-! ## Fields that are given -/

namespace Fields

/-- What is under a key is text or null, if it is there. -/
def MayBeText (fields : Fields) (key : String) : Prop :=
  ∀ value, fields.value? key = some value → ∃ text : Option String, value = .ofText? text

/-- Fields that a record can be made of: a title that is not empty, and perhaps a parent. -/
structure IsDraft (data : Fields) : Prop where
  title : ∃ title, title ≠ "" ∧ data.value? "title" = some (.text title)
  parent : data.MayBeText "parentId"

/-- Changes that a record can be given: perhaps a title, and perhaps a parent. -/
structure IsPatch (changes : Fields) : Prop where
  title : ∀ value, changes.value? "title" = some value → ∃ title, value = .text title
  parent : changes.MayBeText "parentId"

/-- JSON has the further fields, and they fit the room for documents. -/
structure Keepable (data : Fields) (room : Json.Room) : Prop where
  isJson : (Value.ofFields (Record.further data)).IsJson
  fits : (Value.ofFields (Record.further data)).Fits room.levels

/-- Nothing keeps such further fields from being written. -/
lemma Keepable.fault?_eq_none {data : Fields} {room : Json.Room} (h : data.Keepable room) :
    Json.fault? room.levels (.ofFields (Record.further data)) = none :=
  (h.isJson.fault?_eq_none_iff _).2 h.fits

/-- A text or null, or nothing, unless it is null or empty. -/
lemma filter_isGiven_ofText? (text : Option String) :
    (some (Value.ofText? text)).filter Value.isGiven =
      (text.filter (· != "")).map Value.text := by
  cases text with
  | none => rfl
  | some s =>
    by_cases h : s = "" <;> simp [Value.ofText?, Value.isGiven, Option.filter_some, h]

/-- The parent that some fields give, or the former one, as it goes into its column and as it is
read from there. -/
lemma MayBeText.exists_parent {fields : Fields} {key : String} (h : fields.MayBeText key)
    (former : Option String) :
    ∃ text, (fields.value? key).getD (.ofText? (former.filter (· != ""))) = .ofText? text ∧
      ((fields.value? key).or ((former.filter (· != "")).map .text)).filter Value.isGiven =
        (text.filter (· != "")).map Value.text := by
  cases hvalue : fields.value? key with
  | none =>
    refine ⟨former.filter (· != ""), rfl, ?_⟩
    have hformer := filter_isGiven_ofText? (former.filter (· != ""))
    cases hfilter : former.filter (· != "") with
    | none => rfl
    | some s =>
      rw [hfilter] at hformer
      exact hformer
  | some value =>
    obtain ⟨text, rfl⟩ := h value hvalue
    exact ⟨text, rfl, filter_isGiven_ofText? text⟩

end Fields

/-! ## Columns -/

namespace Store

variable {data changes : Fields}

/-- A column keeps text as it is, and null as nothing. -/
@[simp] lemma columnText_ofText? (place : Nat) (text : Option String) :
    columnText place (.ofText? text) = .ok text := by
  cases text <;> rfl

/-- The columns that a draft fills. -/
lemma exists_newColumns (h : data.IsDraft) :
    ∃ title parentId, newColumns data = .ok (title, parentId) ∧
      data.value? "title" = some (.text title) ∧
      (data.value? "parentId").filter Value.isGiven =
        (parentId.filter (· != "")).map Value.text := by
  obtain ⟨title, -, htitle⟩ := h.title
  obtain ⟨parentId, hcolumn, hparent⟩ := h.parent.exists_parent none
  have hnull : fieldOrNull data "parentId" = .ofText? parentId := hcolumn
  refine ⟨title, parentId, ?_, htitle, ?_⟩
  · unfold newColumns
    rw [hnull, fieldOrNull, htitle, columnText_ofText?]
    rfl
  · simpa using hparent

/-- The title of a draft is given. -/
lemma isGiven_title (h : data.IsDraft) : (fieldOrNull data "title").isGiven = true := by
  obtain ⟨title, hne, htitle⟩ := h.title
  rw [fieldOrNull, htitle]
  simpa [Value.isGiven] using hne

/-- The columns that a patch makes of those of a former record. -/
lemma exists_mergedColumns (h : changes.IsPatch) (former : Record) :
    ∃ title parentId, mergedColumns former changes = .ok (title, parentId) ∧
      (changes.value? "title").or (some (.text former.title)) = some (.text title) ∧
      ((changes.value? "parentId").or (former.parent?.map Value.text)).filter Value.isGiven =
        (parentId.filter (· != "")).map Value.text := by
  obtain ⟨parentId, hcolumn, hparent⟩ := h.parent.exists_parent former.parentId
  have htitle : ∃ title : String, (changes.value? "title").getD (.text former.title) = .text title ∧
      (changes.value? "title").or (some (.text former.title)) = some (.text title) := by
    cases hvalue : changes.value? "title" with
    | none => exact ⟨former.title, rfl, rfl⟩
    | some value =>
      obtain ⟨title, rfl⟩ := h.title value hvalue
      exact ⟨title, rfl, rfl⟩
  obtain ⟨title, htitleColumn, htitle⟩ := htitle
  refine ⟨title, parentId, ?_, htitle, hparent⟩
  unfold mergedColumns Record.parent?
  rw [htitleColumn, hcolumn, columnText_ofText?]
  rfl

/-! ## When operations succeed -/

variable {s : Store} {kind : Entity}

/-- A draft makes a record if the clock can be read, a candidate for its id is free, and nothing
keeps its further fields from being written. -/
lemma create_eq_ok {n : Nat} {now : Instant} (hdraft : data.IsDraft)
    (hwritten : Json.fault? s.room.levels (.ofFields (Record.further data)) = none)
    (hclock : s.clock.read? = some now) (hfirst : s.ids.FirstFree s.isTaken n) (kind : Entity) :
    (s.create kind data).1 = .ok (s.ids.candidate n) := by
  have hends := s.creates kind data
  generalize s.create kind data = result at hends ⊢
  cases hends with
  | untitled htitle =>
    rw [isGiven_title hdraft] at htitle
    exact nomatch htitle
  | endless htaken =>
    have hfree := hfirst.free
    rw [htaken n] at hfree
    exact nomatch hfree
  | undated _ hnone => exact nomatch hnone.symm.trans hclock
  | unwritable _ _ _ hfault => exact nomatch hfault.symm.trans hwritten
  | unfit _ _ hcolumns =>
    obtain ⟨title, parentId, hfit, -⟩ := exists_newColumns hdraft
    exact nomatch hcolumns.symm.trans hfit
  | stored hfirst' _ _ _ _ hid => rw [hid, hfirst'.unique hfirst]

/-- A draft makes a record just if the clock can be read, a candidate for its id is free, and nothing
keeps its further fields from being written. -/
lemma exists_create_eq_ok_iff (hdraft : data.IsDraft) (kind : Entity) :
    (∃ id, (s.create kind data).1 = .ok id) ↔
      s.clock.read?.isSome ∧ (∃ n, s.isTaken (s.ids.candidate n) = false) ∧
        Json.fault? s.room.levels (.ofFields (Record.further data)) = none := by
  constructor
  · rintro ⟨id, hid⟩
    have hends := s.creates kind data
    generalize s.create kind data = result at hends hid
    cases hends with
    | untitled | endless | undated | unwritable | unfit => exact nomatch hid
    | stored hfirst hclock _ hwritten => exact ⟨by rw [hclock]; rfl, ⟨_, hfirst.free⟩, hwritten⟩
  · rintro ⟨hclock, ⟨n, hfree⟩, hwritten⟩
    obtain ⟨now, hnow⟩ := Option.isSome_iff_exists.1 hclock
    obtain ⟨m, hfirst⟩ := IdSupply.exists_firstFree hfree
    exact ⟨_, create_eq_ok hdraft hwritten hnow hfirst kind⟩

/-- A patch changes a record that is found just if the clock can be read and nothing keeps its
further fields from being written, once they are overlaid. -/
lemma update_eq_ok_iff {former : Record} {id : Option String} (hpatch : changes.IsPatch)
    (hfound : s.find? kind id = some former) :
    (s.update kind id changes).1 = .ok () ↔ s.clock.read?.isSome ∧ Json.fault? s.room.levels
      (.ofFields (Entries.overlay former.extra (Record.further changes))) = none := by
  have hends := s.updates kind id changes
  generalize s.update kind id changes = result at hends ⊢
  cases hends with
  | missing hmissing => exact nomatch hmissing.symm.trans hfound
  | unwritable hfound' hfault =>
    obtain rfl := Option.some.inj (hfound.symm.trans hfound')
    simp [hfault]
  | undated _ hclock => simp [hclock]
  | @unfit former' _ _ _ _ _ hcolumns =>
    obtain ⟨title, parentId, hfit, -⟩ := exists_mergedColumns hpatch former'
    exact nomatch hcolumns.symm.trans hfit
  | merged hfound' hwritten hclock =>
    obtain rfl := Option.some.inj (hfound.symm.trans hfound')
    simp [hclock, hwritten]

/-- A record is deleted just if it is found. -/
lemma delete_eq_ok_iff (s : Store) (kind : Entity) (id : Option String) :
    (s.delete kind id).1 = .ok () ↔ (s.find? kind id).isSome := by
  have hends := s.deletes kind id
  generalize s.delete kind id = result at hends ⊢
  cases hends with
  | missing hfound => simp [hfound]
  | erased hfound => simp [hfound]

end Store

/-! ## Records -/

namespace Record

/-- The fields that the store gives a record. -/
def stamps : List String := ["id", "createdAt", "updatedAt"]

/-- The fields that the store gives a record are its own. -/
lemma stamps_subset : stamps ⊆ ownFields := by
  decide

/-- The further fields of a record have none of the names of its own. -/
def IsApart (r : Record) : Prop :=
  ∀ key ∈ ownFields, Entries.value? r.extra key = none

variable {r former : Record} {kind : Entity} {data changes : Fields}

/-- What is read of a record under each key. -/
theorem value?_fields (h : r.IsApart) (key : String) :
    r.fields.value? key =
      if key = "id" then some (.text r.id)
      else if key = "createdAt" then some (.text r.createdAt.text)
      else if key = "updatedAt" then some (.text r.updatedAt.text)
      else if key = "title" then some (.text r.title)
      else if key = "parentId" then r.parent?.map .text
      else Entries.value? r.extra key := by
  by_cases hkey : key ∈ ownFields
  · have hnone := h key hkey
    simp only [ownFields, List.mem_cons, List.not_mem_nil, or_false] at hkey
    rcases hkey with rfl | rfl | rfl | rfl | rfl <;> cases hparent : r.parent? <;>
      simp [fields, Entries.value?_append, Entries.value?, hparent, hnone]
  · simp only [ownFields, List.mem_cons, List.not_mem_nil, or_false, not_or] at hkey
    obtain ⟨hid, htitle, hparent, hcreated, hupdated⟩ := hkey
    cases hown : r.parent? <;>
      simp [fields, Entries.value?_append, Entries.value?, hown, hid, htitle, hparent, hcreated,
        hupdated, Ne.symm hid, Ne.symm htitle, Ne.symm hparent, Ne.symm hcreated, Ne.symm hupdated]

/-- Values away from the own fields of records. -/
lemma value?_further (key : String) :
    Entries.value? (further data) key = if key ∈ ownFields then none else data.value? key := by
  rw [further, Entries.value?_without]
  simp

/-- Different keys are different among the further fields. -/
lemma nodup_keys_further (h : data.keys.Nodup) : (further data).keys.Nodup :=
  (List.filter_sublist.map Prod.fst).nodup h

/-- JSON has the further fields of every record. -/
lemma isJson_extra (r : Record) : (Value.ofFields r.extra).IsJson :=
  r.document.isJson_fields

/-- A new record keeps its own fields apart. -/
lemma IsNew.isApart (h : r.IsNew kind data) : r.IsApart := by
  intro key hkey
  rw [h.extra_eq]
  exact Fields.value?_reread_eq_none (by rw [value?_further, if_pos hkey])

/-- The further fields of a new record, if JSON has them. -/
lemma IsNew.value?_extra (h : r.IsNew kind data) (hjson : (Value.ofFields (further data)).IsJson)
    (key : String) :
    Entries.value? r.extra key = if key ∈ ownFields then none else data.value? key := by
  rw [h.extra_eq, Value.reread_fields_eq hjson, value?_further]

/-- The further fields of a record that changes make of a former one, if JSON has them. -/
lemma IsMerged.value?_extra (h : r.IsMerged former changes)
    (hjson : (Value.ofFields (further changes)).IsJson) (key : String) :
    Entries.value? r.extra key =
      (if key ∈ ownFields then none else changes.value? key).or
        (Entries.value? former.extra key) := by
  rw [h.extra_eq, Value.reread_fields_eq (Value.isJson_overlay former.isJson_extra hjson),
    Entries.value?_overlay _ _ (Value.isJson_ofFields_iff.1 hjson).1, value?_further]

/-- A changed record keeps its own fields apart if the former one did. -/
lemma IsMerged.isApart (h : r.IsMerged former changes) (hformer : former.IsApart) : r.IsApart := by
  intro key hkey
  rw [h.extra_eq]
  exact Fields.value?_reread_eq_none (Entries.value?_overlay_eq_none (hformer key hkey)
    (by rw [value?_further, if_pos hkey]))

/-- Title and parent of a record made from a draft. -/
lemma IsNew.columns_of_isDraft (h : r.IsNew kind data) (hdraft : data.IsDraft) :
    some (.text r.title) = data.value? "title" ∧
      r.parent?.map Value.text = (data.value? "parentId").filter Value.isGiven := by
  obtain ⟨title, parentId, hcolumns, htitle, hparent⟩ := Store.exists_newColumns hdraft
  obtain ⟨rfl, rfl⟩ := Prod.mk.inj (Except.ok.inj (hcolumns.symm.trans h.columns))
  exact ⟨htitle.symm, hparent.symm⟩

/-- Title and parent of a record that a patch makes of a former one. -/
lemma IsMerged.columns_of_isPatch (h : r.IsMerged former changes) (hpatch : changes.IsPatch) :
    some (.text r.title) = (changes.value? "title").or (some (.text former.title)) ∧
      r.parent?.map Value.text =
        ((changes.value? "parentId").or (former.parent?.map Value.text)).filter Value.isGiven := by
  obtain ⟨title, parentId, hcolumns, htitle, hparent⟩ := Store.exists_mergedColumns hpatch former
  obtain ⟨rfl, rfl⟩ := Prod.mk.inj (Except.ok.inj (hcolumns.symm.trans h.columns))
  exact ⟨htitle.symm, hparent.symm⟩

end Record

end TaskShell
