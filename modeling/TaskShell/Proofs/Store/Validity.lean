import TaskShell.Proofs.Schema.Conformance
import TaskShell.Proofs.Store.Columns

/-!
# Valid records

What a record holds besides its id and its two times is its payload. A record is valid if the
payload conforms to the schema of its kind and is complete. A record made from fields that were
built is valid, and so is one made from a valid record and a part that was built: its payload is
the former one overlaid by the part.

## Main definitions

* `Record.payload` — a record without its id and its times.
* `Record.Valid` — a payload that conforms and is complete.
* `Record.MeetsSchema` — the same spelled out: what the schema of its kind asks of a record.

## Main results

* `Record.keepable_of_build` — fields that were built can be kept.
* `Record.IsNew.valid`, `Record.IsMerged.valid` — new records and updated ones are valid.
* `Record.Valid.meetsSchema` — a valid record meets its schema.
-/

set_option autoImplicit false

namespace TaskShell

namespace Record

/-- A record without its id and its times. -/
def payload (r : Record) : Fields :=
  Entries.without r.fields stamps

/-- A record has its own fields apart from the others, and its payload conforms to the schema of its
kind and is complete. -/
structure Valid (r : Record) : Prop where
  apart : r.IsApart
  conforms : (Schema.ofEntity r.kind).Conforms r.payload
  complete : (Schema.ofEntity r.kind).Complete r.payload

variable {r former : Record} {data changes : Fields}

/-- What a payload has under each key. -/
lemma value?_payload (h : r.IsApart) (key : String) :
    r.payload.value? key =
      if key = "title" then some (.text r.title)
      else if key = "parentId" then r.parent?.map .text
      else Entries.value? r.extra key := by
  rw [payload, Entries.value?_without, value?_fields h]
  by_cases hkey : key ∈ stamps
  · have hnone : Entries.value? r.extra key = none := h key (stamps_subset hkey)
    simp only [stamps, List.mem_cons, List.not_mem_nil, or_false] at hkey
    rcases hkey with rfl | rfl | rfl <;> simp [stamps, hnone]
  · simp only [stamps, List.mem_cons, List.not_mem_nil, or_false, not_or] at hkey
    obtain ⟨hid, hcreated, hupdated⟩ := hkey
    simp [stamps, hid, hcreated, hupdated]

end Record

/-! ## Own fields of conforming fields -/

/-- A text field of conforming fields is not there, or it is text that is not empty. -/
lemma Schema.Conforms.text_cases {s : Schema} {fields : Fields} (h : s.Conforms fields)
    {name : String} (hname : ∀ f ∈ s.fields, f.name = name → f.kind = .text) :
    fields.value? name = none ∨ ∃ text, text ≠ "" ∧ fields.value? name = some (.text text) := by
  cases hvalue : fields.value? name with
  | none => exact .inl rfl
  | some value =>
    obtain ⟨f, hf, rfl⟩ := h.closed name (by rw [hvalue]; rfl)
    have hadmits := h.admitted f hf value hvalue
    rw [Field.Admits, hname f hf rfl] at hadmits
    obtain ⟨text, rfl, htext⟩ := hadmits
    exact .inr ⟨text, htext, rfl⟩

namespace Record

variable {r former : Record} {data changes : Fields} {kind : Entity}

/-- Titles are text. -/
lemma title_isText (kind : Entity) :
    ∀ f ∈ (Schema.ofEntity kind).fields, f.name = "title" → f.kind = .text := by
  cases kind <;> decide

/-- Parents are text. -/
lemma parentId_isText (kind : Entity) :
    ∀ f ∈ (Schema.ofEntity kind).fields, f.name = "parentId" → f.kind = .text := by
  cases kind <;> decide

/-- No schema has a field that the store gives. -/
lemma stamps_notMem (kind : Entity) :
    ∀ f ∈ (Schema.ofEntity kind).fields, f.name ∉ stamps := by
  cases kind <;> decide

/-- Conforming fields are none of those that the store gives. -/
lemma value?_stamp (h : (Schema.ofEntity kind).Conforms data) {key : String} (hkey : key ∈ stamps) :
    data.value? key = none := by
  rw [← Option.not_isSome_iff_eq_none]
  intro hsome
  obtain ⟨f, hf, rfl⟩ := h.closed key hsome
  exact stamps_notMem kind f hf hkey

/-- What is no own field but title and parent is one that the store gives. -/
lemma mem_stamps {key : String} (h : key ∈ ownFields) (htitle : key ≠ "title")
    (hparent : key ≠ "parentId") : key ∈ stamps := by
  simpa [ownFields, stamps, htitle, hparent] using h

/-! ## Documents of conforming fields -/

/-- A value that a field admits is a text, a number or a list of texts, so JSON has it, and it takes
one level at most. -/
lemma isJson_of_admits {f : Field} {value : Value} (h : f.Admits value) :
    value.IsJson ∧ value.Fits 1 := by
  unfold Field.Admits at h
  split at h
  · obtain ⟨s, rfl, -⟩ := h
    exact ⟨.text s, Nat.zero_le 1, List.forall_mem_nil _⟩
  · obtain ⟨s, -, rfl⟩ := h
    exact ⟨.text s, Nat.zero_le 1, List.forall_mem_nil _⟩
  · obtain ⟨items, rfl⟩ := h
    refine ⟨.list (List.forall_mem_map.2 fun s _ => .text s), Value.fits_list_iff.2 ?_⟩
    exact List.forall_mem_map.2 fun s _ => ⟨Nat.le_refl 0, List.forall_mem_nil _⟩
  · obtain ⟨x, rfl, -⟩ := h
    exact ⟨.float x, Nat.zero_le 1, List.forall_mem_nil _⟩

/-- Fields whose values take one level at most fit every room: a map and a list in it take two. -/
lemma fits_room {fields : Fields} (h : ∀ entry ∈ fields, entry.2.Fits 1) (room : Json.Room) :
    (Value.ofFields fields).Fits room.levels :=
  (Value.fits_ofFields_iff.2 h).mono room.two_le

/-- Conforming fields can be kept, if their keys are different. -/
lemma keepable_of_conforms (h : (Schema.ofEntity kind).Conforms data) (hkeys : data.keys.Nodup)
    (room : Json.Room) : data.Keepable room := by
  have hentry : ∀ entry ∈ further data, entry.2.IsJson ∧ entry.2.Fits 1 := by
    rintro ⟨key, value⟩ hentry
    have hvalue := (Entries.value?_eq_some_iff hkeys).2 (List.mem_filter.1 hentry).1
    obtain ⟨f, hf, rfl⟩ := h.closed key (by rw [hvalue]; rfl)
    exact isJson_of_admits (h.admitted f hf value hvalue)
  exact ⟨Value.isJson_ofFields_iff.2
    ⟨nodup_keys_further hkeys, fun entry hmem => (hentry entry hmem).1⟩,
    fits_room (fun entry hmem => (hentry entry hmem).2) room⟩

/-- Fields that were built can be kept. -/
lemma keepable_of_build {given : String → Option String} {isPartial : Bool}
    (hbuild : (Schema.ofEntity kind).build given isPartial = .ok data) (room : Json.Room) :
    data.Keepable room :=
  keepable_of_conforms (Schema.conforms_of_build hbuild) (Schema.nodup_keys_of_build hbuild) room

/-- JSON has the further fields among conforming ones, if their keys are different. -/
lemma isJson_of_conforms (h : (Schema.ofEntity kind).Conforms data) (hkeys : data.keys.Nodup) :
    (Value.ofFields (further data)).IsJson :=
  (keepable_of_conforms h hkeys .standard).isJson

/-- The further fields of a valid record can be written again. -/
lemma Valid.isWritable (h : r.Valid) (room : Json.Room) : r.IsWritable room := by
  have hentry : ∀ entry ∈ r.extra, entry.2.Fits 1 := by
    rintro ⟨key, value⟩ hmem
    have hnodup := (Value.isJson_ofFields_iff.1 r.isJson_extra).1
    have hvalue := (Entries.value?_eq_some_iff hnodup).2 hmem
    have hown : key ∉ ownFields := fun hkey => nomatch (h.apart key hkey).symm.trans hvalue
    have hpayload : r.payload.value? key = some value := by
      simp only [ownFields, List.mem_cons, not_or] at hown
      rw [value?_payload h.apart, if_neg hown.2.1, if_neg hown.2.2.1, hvalue]
    obtain ⟨f, hf, rfl⟩ := h.conforms.closed key (by rw [hpayload]; rfl)
    exact (isJson_of_admits (h.conforms.admitted f hf value hpayload)).2
  exact (r.isJson_extra.fault?_eq_none_iff _).2 (fits_room hentry room)

/-! ## New records -/

/-- A text field of conforming fields is text or null, if it is there. -/
lemma mayBeText_of_conforms (h : (Schema.ofEntity kind).Conforms data) {name : String}
    (hname : ∀ f ∈ (Schema.ofEntity kind).fields, f.name = name → f.kind = .text) :
    data.MayBeText name := by
  intro value hvalue
  rcases h.text_cases hname with hnone | ⟨text, -, htext⟩
  · exact nomatch hnone.symm.trans hvalue
  · exact ⟨some text, Option.some.inj (hvalue.symm.trans htext)⟩

/-- Text fields of conforming fields are not empty. -/
lemma filter_isGiven_of_conforms (h : (Schema.ofEntity kind).Conforms data) {name : String}
    (hname : ∀ f ∈ (Schema.ofEntity kind).fields, f.name = name → f.kind = .text) :
    (data.value? name).filter Value.isGiven = data.value? name := by
  rcases h.text_cases hname with hnone | ⟨text, hne, htext⟩
  · rw [hnone]
    rfl
  · rw [htext]
    simp [Option.filter_some, Value.isGiven, hne]

/-- Title and parent of a record made from conforming fields with a title. -/
lemma IsNew.columns_eq (h : r.IsNew kind data) (hconforms : (Schema.ofEntity kind).Conforms data)
    (htitle : (data.value? "title").isSome) :
    some (.text r.title) = data.value? "title" ∧
      r.parent?.map Value.text = data.value? "parentId" := by
  have hdraft : data.IsDraft :=
    ⟨(hconforms.text_cases (title_isText kind)).resolve_left (Option.isSome_iff_ne_none.1 htitle),
      mayBeText_of_conforms hconforms (parentId_isText kind)⟩
  rw [← filter_isGiven_of_conforms hconforms (parentId_isText kind)]
  exact h.columns_of_isDraft hdraft

/-- A record made from conforming fields with a title has them as its payload. -/
lemma IsNew.value?_payload (h : r.IsNew kind data) (hconforms : (Schema.ofEntity kind).Conforms data)
    (hkeys : data.keys.Nodup) (htitle : (data.value? "title").isSome) (key : String) :
    r.payload.value? key = data.value? key := by
  obtain ⟨htitle, hparent⟩ := h.columns_eq hconforms htitle
  rw [Record.value?_payload h.isApart, h.value?_extra (isJson_of_conforms hconforms hkeys)]
  split
  · next hkey => rw [hkey, htitle]
  · next hnotTitle =>
    split
    · next hkey => rw [hkey, hparent]
    · next hnotParent =>
      split
      · next hkey => exact (value?_stamp hconforms (mem_stamps hkey hnotTitle hnotParent)).symm
      · rfl

/-- The title is among what every whole record needs. -/
lemma title_of_complete (h : (Schema.ofEntity kind).Complete data) :
    (data.value? "title").isSome :=
  h "title" List.mem_cons_self

/-- Complete fields stay so if none of them is lost. -/
lemma complete_of_isSome {fields others : Fields} (h : (Schema.ofEntity kind).Complete fields)
    (hvalues : ∀ key, (fields.value? key).isSome → (others.value? key).isSome) :
    (Schema.ofEntity kind).Complete others :=
  fun name hname => hvalues name (h name hname)

/-- A record made from fields that were built is valid. -/
theorem IsNew.valid {given : String → Option String} (h : r.IsNew kind data)
    (hbuild : (Schema.ofEntity kind).build given = .ok data) : r.Valid := by
  have hconforms := Schema.conforms_of_build hbuild
  have hcomplete := Schema.complete_of_build hbuild
  have hkeys := Schema.nodup_keys_of_build hbuild
  have hvalues := h.value?_payload hconforms hkeys (title_of_complete hcomplete)
  refine ⟨h.isApart, ?_, ?_⟩
  · rw [h.kind_eq]
    exact hconforms.congr hvalues
  · rw [h.kind_eq]
    exact complete_of_isSome hcomplete fun key hkey => by rw [hvalues]; exact hkey

/-! ## Updated records -/

/-- Conforming changes are a patch. -/
lemma isPatch_of_conforms (h : (Schema.ofEntity kind).Conforms changes) : changes.IsPatch := by
  refine ⟨fun value hvalue => ?_, mayBeText_of_conforms h (parentId_isText kind)⟩
  rcases h.text_cases (title_isText kind) with hnone | ⟨title, -, htitle⟩
  · exact nomatch hnone.symm.trans hvalue
  · exact ⟨title, Option.some.inj (hvalue.symm.trans htitle)⟩

/-- Title and parent of a record that conforming changes make of a former one. -/
lemma IsMerged.columns_eq (h : r.IsMerged former changes)
    (hconforms : (Schema.ofEntity kind).Conforms changes) :
    some (.text r.title) = (changes.value? "title").or (some (.text former.title)) ∧
      r.parent?.map Value.text =
        (changes.value? "parentId").or (former.parent?.map Value.text) := by
  obtain ⟨htitle, hparent⟩ := h.columns_of_isPatch (isPatch_of_conforms hconforms)
  refine ⟨htitle, hparent.trans ?_⟩
  rcases hconforms.text_cases (parentId_isText kind) with hnone | ⟨parent, hne, hgiven⟩
  · -- the former parent is not empty where it is read
    rw [hnone, Option.none_or]
    cases hformer : former.parent? with
    | none => rfl
    | some parent =>
      have hne := (Option.filter_eq_some_iff.1 hformer).2
      simp [Option.filter_some, Value.isGiven, bne_iff_ne.1 hne]
  · rw [hgiven, Option.some_or]
    simp [Option.filter_some, Value.isGiven, hne]

/-- The payload of a record that conforming changes make of a former one: the former payload
overlaid by the changes. -/
lemma IsMerged.value?_payload (h : r.IsMerged former changes) (hformer : former.Valid)
    (hconforms : (Schema.ofEntity kind).Conforms changes) (hkeys : changes.keys.Nodup)
    (key : String) :
    r.payload.value? key = (changes.value? key).or (former.payload.value? key) := by
  obtain ⟨htitle, hparent⟩ := h.columns_eq hconforms
  rw [Record.value?_payload (h.isApart hformer.apart), Record.value?_payload hformer.apart,
    h.value?_extra (isJson_of_conforms hconforms hkeys)]
  split
  · next hkey => rw [hkey, htitle]
  · next hnotTitle =>
    split
    · next hkey => rw [hkey, hparent]
    · next hnotParent =>
      split
      · next hkey => rw [value?_stamp hconforms (mem_stamps hkey hnotTitle hnotParent)]
      · rfl

/-- A record made from a valid one and changes that were built is valid. -/
theorem IsMerged.valid {given : String → Option String} (h : r.IsMerged former changes)
    (hformer : former.Valid)
    (hbuild : (Schema.ofEntity r.kind).build given true = .ok changes) : r.Valid := by
  have hconforms := Schema.conforms_of_build hbuild
  have hkeys := Schema.nodup_keys_of_build hbuild
  have hvalues := h.value?_payload hformer hconforms hkeys
  have hkind := h.kind_eq
  refine ⟨h.isApart hformer.apart, ?_, ?_⟩
  · refine Schema.Conforms.overlay ?_ hconforms hvalues
    rw [hkind]
    exact hformer.conforms
  · rw [hkind]
    refine complete_of_isSome hformer.complete fun key hkey => ?_
    rw [hvalues, Option.isSome_or, hkey, Bool.or_true]

/-! ## What a schema asks of a record -/

/-- What the schema of its kind asks of a record, its id and times aside: its check finds nothing
wrong; the title is text that is not empty; so is the parent for all kinds that have one, and there
is none for the others; every other field is one of the schema and has a value that it admits. -/
structure MeetsSchema (r : Record) : Prop where
  accepted : (Schema.ofEntity r.kind).violation? false (Value.ofFields r.payload) = none
  title : ∃ title, title ≠ "" ∧ r.payload.value? "title" = some (.text title)
  parent : match r.kind.parent? with
    | some _ => ∃ parent, parent ≠ "" ∧ r.payload.value? "parentId" = some (.text parent)
    | none => r.payload.value? "parentId" = none
  admitted : ∀ f ∈ (Schema.ofEntity r.kind).fields, ∀ value,
    r.payload.value? f.name = some value → f.Admits value
  closed : ∀ key ∈ r.payload.keys, ∃ f ∈ (Schema.ofEntity r.kind).fields, f.name = key

/-- Fields written as a map are read back. -/
lemma fieldsOf_ofFields (fields : Fields) :
    Schema.fieldsOf (fields.map fun (key, value) => (Value.text key, value)) = fields := by
  unfold Schema.fieldsOf
  rw [List.map_map]
  exact (List.map_congr_left fun _ _ => rfl).trans (List.map_id fields)

/-- A whole record needs a parent if its kind has one. -/
lemma parentId_mem_required {parent : Entity} (h : kind.parent? = some parent) :
    "parentId" ∈ (Schema.ofEntity kind).required := by
  revert h
  cases kind
  · exact fun h => nomatch h
  all_goals exact fun _ => by decide

/-- There is a field for a parent if its kind has one. -/
lemma parentId_mem_fields (h : kind.parent?.isSome) :
    Schema.parentId ∈ (Schema.ofEntity kind).fields := by
  revert h
  cases kind <;> decide

/-- There is no field for a parent if its kind has none. -/
lemma parentId_notMem (h : kind.parent? = none) :
    ∀ f ∈ (Schema.ofEntity kind).fields, f.name ≠ "parentId" := by
  revert h
  cases kind
  · exact fun _ => by decide
  all_goals exact fun h => nomatch h

/-- A valid record meets its schema. -/
theorem Valid.meetsSchema (h : r.Valid) : r.MeetsSchema := by
  refine ⟨?_, ?_, ?_, h.conforms.admitted, fun key hkey => ?_⟩
  · have haccepted := h.conforms.accepted h.complete
    rw [Schema.violation?, Value.ofFields, Schema.violations, fieldsOf_ofFields, haccepted]
    rfl
  · exact (h.conforms.text_cases (title_isText r.kind)).resolve_left
      (Option.isSome_iff_ne_none.1 (title_of_complete h.complete))
  · split
    · next parent hparent =>
      exact (h.conforms.text_cases (parentId_isText r.kind)).resolve_left
        (Option.isSome_iff_ne_none.1 (h.complete "parentId" (parentId_mem_required hparent)))
    · next hnone =>
      rw [← Option.not_isSome_iff_eq_none]
      intro hsome
      obtain ⟨f, hf, hname⟩ := h.conforms.closed "parentId" hsome
      exact parentId_notMem hnone f hf hname
  · exact h.conforms.closed key ((Entries.value?_isSome_iff _ _).2 hkey)

end Record

end TaskShell
