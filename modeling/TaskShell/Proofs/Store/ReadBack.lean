import TaskShell.Proofs.Store.Frames
import TaskShell.Proofs.Store.Run

/-!
# What is stored is read back

Whatever a store has gone through: a record made from a draft is read back as the draft, with its id
and its times; a record that a patch has changed is read back as the former one overlaid by the
patch; and one that has been deleted is found no more. The store spares all other records.

## Main definitions

* `Store.Shows` — a record is found under an id, however its basic letters are cased, and has given
  values.
* `Record.newValue?`, `Record.patchedValue?` — what is read of a new record and of a changed one.

## Main results

* `Record.IsNew.value?_fields`, `Record.IsMerged.value?_fields` — what their fields are.
* `Store.Intact.create_shows`, `Store.Intact.update_shows`, `Store.delete_hides` — what each
  operation leaves behind.
* `Store.reads_back` — all of this after any history.
-/

set_option autoImplicit false

namespace TaskShell

/-! ## Fields of records -/

namespace Record

variable {r former : Record} {kind : Entity} {data changes : Fields}

/-- What is read under a key of a record that is made from a draft: its id, the time, and the values
of the draft, save a parent that is null or empty. -/
def newValue? (data : Fields) (id : String) (now : Instant) (key : String) : Option Value :=
  if key = "id" then some (.text id)
  else if key = "createdAt" ∨ key = "updatedAt" then some (.text now.text)
  else if key = "parentId" then (data.value? key).filter Value.isGiven
  else data.value? key

/-- What is read under a key of a record that a patch has changed: the former fields, overlaid by
the patch without what the store gives, save a parent that is null or empty; and the time of the
change. -/
def patchedValue? (former changes : Fields) (now : Instant) (key : String) : Option Value :=
  let merged : Fields := Entries.overlay former (Entries.without changes stamps)
  if key = "updatedAt" then some (.text now.text)
  else if key = "parentId" then (merged.value? key).filter Value.isGiven
  else merged.value? key

/-- What is read of a new record. -/
theorem IsNew.value?_fields (h : r.IsNew kind data) (hdraft : data.IsDraft)
    (hjson : (Value.ofFields (further data)).IsJson) (htimes : r.createdAt = r.updatedAt)
    (key : String) : r.fields.value? key = newValue? data r.id r.updatedAt key := by
  obtain ⟨htitle, hparent⟩ := h.columns_of_isDraft hdraft
  rw [Record.value?_fields h.isApart, h.value?_extra hjson, htitle, hparent, htimes]
  unfold newValue?
  by_cases hkey : key ∈ ownFields
  · simp only [ownFields, List.mem_cons, List.not_mem_nil, or_false] at hkey
    rcases hkey with rfl | rfl | rfl | rfl | rfl <;> rfl
  · rw [if_neg hkey]
    simp only [ownFields, List.mem_cons, List.not_mem_nil, or_false, not_or] at hkey
    obtain ⟨hid, htitle', hparent', hcreated, hupdated⟩ := hkey
    simp [hid, htitle', hparent', hcreated, hupdated]

/-- What is read of a record that a patch has changed. -/
theorem IsMerged.value?_fields (h : r.IsMerged former changes) (hpatch : changes.IsPatch)
    (hkeys : changes.keys.Nodup) (hjson : (Value.ofFields (further changes)).IsJson)
    (hformer : former.IsApart) (key : String) :
    r.fields.value? key = patchedValue? former.fields changes r.updatedAt key := by
  obtain ⟨htitle, hparent⟩ := h.columns_of_isPatch hpatch
  have hnodup : (Entries.without changes stamps).keys.Nodup :=
    (List.filter_sublist.map Prod.fst).nodup hkeys
  have hmerged : ∀ key, Entries.value? (Entries.overlay former.fields
      (Entries.without changes stamps)) key =
        (if key ∈ stamps then none else changes.value? key).or (former.fields.value? key) := by
    intro key
    rw [Entries.value?_overlay _ _ hnodup, Entries.value?_without]
    simp
  unfold patchedValue?
  dsimp only
  rw [hmerged, Record.value?_fields hformer, Record.value?_fields (h.isApart hformer),
    h.value?_extra hjson, htitle, hparent, h.id_eq, h.createdAt_eq]
  by_cases hkey : key ∈ ownFields
  · simp only [ownFields, List.mem_cons, List.not_mem_nil, or_false] at hkey
    rcases hkey with rfl | rfl | rfl | rfl | rfl <;> rfl
  · have hstamp : key ∉ stamps := fun hstamp => hkey (stamps_subset hstamp)
    rw [if_neg hkey, if_neg hstamp]
    simp only [ownFields, List.mem_cons, List.not_mem_nil, or_false, not_or] at hkey
    obtain ⟨hid, htitle', hparent', hcreated, hupdated⟩ := hkey
    simp [hid, htitle', hparent', hcreated, hupdated]

end Record

namespace Store

variable {s : Store} {kind : Entity} {id : String} {data changes : Fields}

/-! ## Laws of the operations -/

/-- A record of a kind is found under an id, however its basic letters are cased, and it has the
given values. -/
def Shows (s : Store) (kind : Entity) (id : String) (value? : String → Option Value) : Prop :=
  ∀ spelled, Text.foldBasic spelled = Text.foldBasic id →
    ∃ r, s.find? kind (some spelled) = some r ∧ ∀ key, r.fields.value? key = value? key

/-- No record of a kind is found under an id, however its basic letters are cased. -/
def Hides (s : Store) (kind : Entity) (id : String) : Prop :=
  ∀ spelled, Text.foldBasic spelled = Text.foldBasic id → s.find? kind (some spelled) = none

/-- A named record of an intact store is found and shows its fields. -/
lemma Intact.shows (h : s.Intact) {r : Record} (hr : r ∈ s.records)
    (hnamed : isNamed kind id r = true) : s.Shows kind id r.fields.value? := by
  intro spelled hspelled
  refine ⟨r, ?_, fun key => rfl⟩
  have hsame : sameId spelled id = true := sameId_of_foldBasic hspelled
  change s.records.find? (isNamed kind spelled) = some r
  rw [h.distinct.find?_eq_some_iff, isNamed_congr hsame]
  exact ⟨hr, hnamed⟩

/-- What a store shows may be put in other words. -/
lemma Shows.congr {value? value?' : String → Option Value} (h : s.Shows kind id value?)
    (hvalues : ∀ key, value? key = value?' key) : s.Shows kind id value?' := by
  rw [← funext hvalues]
  exact h

/-- After a creation from a draft the record shows the draft, its id and the time, and the others
are spared. -/
theorem Intact.create_shows (h : s.Intact) (hdraft : data.IsDraft)
    (hjson : (Value.ofFields (Record.further data)).IsJson) (hid : (s.create kind data).1 = .ok id) :
    ∃ now, s.clock.read? = some now ∧
      (s.create kind data).2.Shows kind id (Record.newValue? data id now) ∧
      s.Spares (s.create kind data).2 kind id := by
  have hintact := h.create kind data
  have hends := s.creates kind data
  generalize s.create kind data = result at hid hintact hends ⊢
  cases hends with
  | untitled | endless | undated | unwritable | unfit => exact nomatch hid
  | @stored n now r hfirst hclock _ _ hnew _ hcreated hupdated =>
    cases hid
    have hnamed : isNamed kind r.id r = true :=
      (isNamed_iff _ _ _).2 ⟨hnew.kind_eq, sameId_self r.id⟩
    refine ⟨now, hclock, ?_, ?_⟩
    · refine (hintact.shows (List.mem_append_right _ (List.mem_singleton_self r)) hnamed).congr ?_
      intro key
      rw [hnew.value?_fields hdraft hjson (hcreated.trans hupdated.symm), hupdated]
    · refine spares_of_filter ?_
      simp [List.filter_append, hnamed]

/-- After an update by a patch the record shows its former fields overlaid by the patch, and the
others are spared. -/
theorem Intact.update_shows (h : s.Intact) (hpatch : changes.IsPatch) (hkeys : changes.keys.Nodup)
    (hjson : (Value.ofFields (Record.further changes)).IsJson)
    (hok : (s.update kind (some id) changes).1 = .ok ()) :
    ∃ former now, s.find? kind (some id) = some former ∧ s.clock.read? = some now ∧
      (s.update kind (some id) changes).2.Shows kind id
        (Record.patchedValue? former.fields changes now) ∧
      s.Spares (s.update kind (some id) changes).2 kind id := by
  have hintact := h.update kind (some id) changes
  have hends := s.updates kind (some id) changes
  generalize s.update kind (some id) changes = result at hok hintact hends ⊢
  cases hends with
  | missing | unwritable | undated | unfit => exact nomatch hok
  | @merged former r now hfound _ hclock hmerged hupdated =>
    obtain ⟨hformer, hkind, given, hgiven, hsame⟩ := find?_eq_some hfound
    cases hgiven
    have hnamed : isNamed kind id r = true :=
      (isNamed_iff _ _ _).2 ⟨hmerged.kind_eq.trans hkind, by rw [hmerged.id_eq]; exact hsame⟩
    have hr : r ∈ replaced s.records r := by
      refine List.mem_map.2 ⟨former, hformer, if_pos ?_⟩
      rw [isNamed_iff, hmerged.kind_eq, hmerged.id_eq]
      exact ⟨rfl, sameId_self former.id⟩
    refine ⟨former, now, hfound, hclock, ?_, spares_of_filter (filter_replaced hnamed s.records)⟩
    refine (hintact.shows hr hnamed).congr fun key => ?_
    rw [hmerged.value?_fields hpatch hkeys hjson (h.apart former hformer), hupdated]

/-- A draft whose further fields JSON has makes a record just if the clock can be read, a candidate
for the id is free, and the further fields fit the room. -/
lemma exists_create_eq_ok_iff_fits (hdraft : data.IsDraft)
    (hjson : (Value.ofFields (Record.further data)).IsJson) :
    (∃ id, (s.create kind data).1 = .ok id) ↔
      s.clock.read?.isSome ∧ (∃ n, s.isTaken (s.ids.candidate n) = false) ∧
        (Value.ofFields (Record.further data)).Fits s.room.levels := by
  rw [exists_create_eq_ok_iff hdraft, hjson.fault?_eq_none_iff]

/-- A patch whose further fields JSON has changes a record of an intact store just if the record is
found, the clock can be read, and the further fields of the patch fit the room. -/
lemma Intact.update_eq_ok_iff_fits (h : s.Intact) (hpatch : changes.IsPatch)
    (hjson : (Value.ofFields (Record.further changes)).IsJson) :
    (s.update kind (some id) changes).1 = .ok () ↔
      (s.find? kind (some id)).isSome ∧ s.clock.read?.isSome ∧
        (Value.ofFields (Record.further changes)).Fits s.room.levels := by
  cases hfound : s.find? kind (some id) with
  | none => simp [Store.update, hfound]
  | some former =>
    -- the former fields can be written, so only those of the patch matter
    have hformer := h.writable former (find?_eq_some hfound).1
    rw [update_eq_ok_iff hpatch hfound,
      Json.fault?_overlay_eq_none_iff hformer (Value.isJson_ofFields_iff.1 hjson).1,
      hjson.fault?_eq_none_iff, Option.isSome_some]
    simp only [true_and]

/-- After a deletion the record is found no more, and the others are spared. -/
theorem delete_hides (hok : (s.delete kind (some id)).1 = .ok ()) :
    (s.delete kind (some id)).2.Hides kind id ∧ s.Spares (s.delete kind (some id)).2 kind id := by
  have hends := s.deletes kind (some id)
  generalize s.delete kind (some id) = result at hok hends ⊢
  cases hends with
  | missing => exact nomatch hok
  | @erased r hfound =>
    obtain ⟨-, hkind, given, hgiven, hsame⟩ := find?_eq_some hfound
    cases hgiven
    have hnamed : isNamed kind id r = true := (isNamed_iff _ _ _).2 ⟨hkind, hsame⟩
    refine ⟨fun spelled hspelled => ?_, spares_of_filter (filter_erased hnamed s.records)⟩
    have hspelled : sameId spelled r.id = true := by
      rw [sameId_congr_right hsame]
      exact sameId_of_foldBasic hspelled
    refine List.find?_eq_none.2 fun q hq => ?_
    have hkept := (List.mem_filter.1 hq).2
    rw [isNamed_congr hspelled, ← hkind]
    simpa using hkept

/-- **What is stored is read back.** Whatever operations an empty store goes through, as long as the
further fields are values that JSON has:

* a draft makes a record just if the clock can be read, a candidate for the id is free, and the
  further fields nest within the room and have no whole number that is too long; then the record is
  found under its id, however its letters are cased, and reads as the draft with the id and the time;
* a patch changes a record just if the record is found, the clock can be read, and its further fields
  fit in the same way; then it reads as the former one overlaid by the patch, with the time of the
  change;
* a record is deleted just if it is found, and then it is found no more;
* each time every other record of every kind stays as it was, and the others stay in their order in
  every list;
* the count of a kind is the length of its list, and the count of all is the sum over the four
  kinds.

**Proof sketch.** By induction on the operations the records keep ids of their own, keep their own
fields apart from the others, and can be written again. So an id names one record, and its fields are
read off its columns and its document; and the text of a document reads back as the fields that were
written (`Json.parse?_render`). An operation leaves alone what its record does not name, and a stable
sort of the rest does not depend on what is left out. -/
theorem reads_back (ids : IdSupply) (clock : Clock) (room : Json.Room) (ops : List Operation) :
    let s := (empty ids clock room).after ops
    (∀ kind data, Fields.IsDraft data → (Value.ofFields (Record.further data)).IsJson →
        ((∃ id, (s.create kind data).1 = .ok id) ↔
          s.clock.read?.isSome ∧ (∃ n, s.isTaken (s.ids.candidate n) = false) ∧
            (Value.ofFields (Record.further data)).Fits room.levels) ∧
        ∀ id, (s.create kind data).1 = .ok id → ∃ now, s.clock.read? = some now ∧
          (s.create kind data).2.Shows kind id (Record.newValue? data id now) ∧
          s.Spares (s.create kind data).2 kind id) ∧
      (∀ kind id changes, Fields.IsPatch changes → changes.keys.Nodup →
        (Value.ofFields (Record.further changes)).IsJson →
        ((s.update kind (some id) changes).1 = .ok () ↔
          (s.find? kind (some id)).isSome ∧ s.clock.read?.isSome ∧
            (Value.ofFields (Record.further changes)).Fits room.levels) ∧
        ((s.update kind (some id) changes).1 = .ok () → ∃ former now,
          s.find? kind (some id) = some former ∧ s.clock.read? = some now ∧
          (s.update kind (some id) changes).2.Shows kind id
            (Record.patchedValue? former.fields changes now) ∧
          s.Spares (s.update kind (some id) changes).2 kind id)) ∧
      (∀ kind id,
        ((s.delete kind (some id)).1 = .ok () ↔ (s.find? kind (some id)).isSome) ∧
        ((s.delete kind (some id)).1 = .ok () →
          (s.delete kind (some id)).2.Hides kind id ∧
          s.Spares (s.delete kind (some id)).2 kind id)) ∧
      (∀ kind : Entity, s.count (some kind.name) = (s.list kind).length) ∧
      s.count = (s.list .program).length + (s.list .project).length + (s.list .task).length +
        (s.list .subtask).length := by
  intro s
  have hintact : s.Intact := (intact_empty ids clock room).after ops
  have hroom : s.room = room := (empty ids clock room).room_after ops
  refine ⟨fun kind data hdraft hjson => ⟨?_, fun id hid => hintact.create_shows hdraft hjson hid⟩,
    fun kind id changes hpatch hkeys hjson =>
      ⟨?_, fun hok => hintact.update_shows hpatch hkeys hjson hok⟩,
    fun kind id => ⟨s.delete_eq_ok_iff kind (some id), fun hok => delete_hides hok⟩,
    s.count_name, s.count_all⟩
  · rw [← hroom]
    exact exists_create_eq_ok_iff_fits hdraft hjson
  · rw [← hroom]
    exact hintact.update_eq_ok_iff_fits hpatch hjson

/-- A task with a list beside its own fields is stored beside a program, which is changed and deleted
under another spelling of its id. -/
theorem reads_back_mission :
    let s := (empty (.ofQueue ["A1", "B2"]) {}).after [.create .program [("title", .text "Apollo")]]
    let task : Fields :=
      [("title", .text "Land"), ("id", .text "mine"), ("parentId", .null),
        ("crew", .list [.text "Neil", .int 2])]
    let changes : Fields := [("title", .text "Artemis"), ("updatedAt", .int 0), ("budget", .bool true)]
    (∃ now, (s.create .task task).2.Shows .task "B2" (Record.newValue? task "B2" now)) ∧
      (∃ former now, s.find? .program (some "a1") = some former ∧
        (s.update .program (some "a1") changes).2.Shows .program "a1"
          (Record.patchedValue? former.fields changes now)) ∧
      (s.delete .program (some "a1")).2.Hides .program "a1" := by
  intro s task changes
  obtain ⟨hcreate, hupdate, hdelete, -, -⟩ := reads_back (.ofQueue ["A1", "B2"]) {} .standard
    [.create .program [("title", .text "Apollo")]]
  have hdraft : task.IsDraft :=
    ⟨⟨"Land", by decide, rfl⟩, fun value hvalue => ⟨none, (Option.some.inj hvalue).symm⟩⟩
  have hpatch : changes.IsPatch :=
    ⟨fun value hvalue => ⟨"Artemis", (Option.some.inj hvalue).symm⟩, fun _ hvalue => nomatch hvalue⟩
  have hfound : (s.find? .program (some "a1")).isSome := by decide +kernel
  refine ⟨?_, ?_, ?_⟩
  · have hcrew : Value.IsJson (.list [.text "Neil", .int 2]) :=
      .list (List.forall_mem_cons.2 ⟨.text "Neil", List.forall_mem_singleton.2 (.int 2)⟩)
    have hjson : (Value.ofFields (Record.further task)).IsJson :=
      Value.isJson_ofFields_iff.2 ⟨by decide, List.forall_mem_singleton.2 hcrew⟩
    have hid : (s.create .task task).1 = .ok "B2" := by decide +kernel
    obtain ⟨now, -, hshows, -⟩ := (hcreate .task task hdraft hjson).2 "B2" hid
    exact ⟨now, hshows⟩
  · have hjson : (Value.ofFields (Record.further changes)).IsJson :=
      Value.isJson_ofFields_iff.2 ⟨by decide, List.forall_mem_singleton.2 (.bool true)⟩
    have hfits : (Value.ofFields (Record.further changes)).Fits Json.Room.standard.levels :=
      ⟨by decide, by decide⟩
    obtain ⟨hiff, hlaw⟩ := hupdate .program "a1" changes hpatch (by decide) hjson
    obtain ⟨former, now, hformer, -, hshows, -⟩ := hlaw (hiff.2 ⟨hfound, by decide +kernel, hfits⟩)
    exact ⟨former, now, hformer, hshows⟩
  · obtain ⟨hiff, hlaw⟩ := hdelete .program "a1"
    exact (hlaw (hiff.2 hfound)).1

end Store

end TaskShell
