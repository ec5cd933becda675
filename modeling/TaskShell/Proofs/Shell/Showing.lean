import TaskShell.Proofs.Schema.Collecting
import TaskShell.Proofs.Shell.Using

/-!
# What `info` shows

The fields that `info` shows are taken from two passes, one over the names with a fixed place and one
over the record. A field is met in exactly one of them, by its key. So every entry of a record but the
id is shown once, unless its value is null, the empty text or the empty list. The keys stand in one
order that has no key twice, and there is only one way to list entries with different keys in such an
order.

## Main definitions

* `Fields.Appears` — the entries that are to be shown.
* `Schema.displayOrder` — the order of the keys of a record.
* `Schema.Presents` — a list that shows a record.

## Main results

* `Entries.eq_of_perm` — entries in an order of their keys are listed in one way.
* `Shell.presents_iff` — there is one list that shows a record, and it is what is shown.
* `Shell.info_presents` — what `info` writes.
-/

set_option autoImplicit false

namespace TaskShell

/-! ## Entries in the order of some keys -/

namespace Entries

variable {α : Type} {entries others : Entries α} {order : List String}

/-- Entries in some order of their keys, which has no key twice, are listed in one way.

**Proof sketch.** Two entries of which each comes before the other would have places that do. -/
lemma eq_of_perm (horder : order.Nodup) (h : entries.keys.Sublist order)
    (h' : others.keys.Sublist order) (hperm : entries.Perm others) : entries = others := by
  have hplaces : order.Pairwise fun a b => order.idxOf a < order.idxOf b := by
    rw [List.pairwise_iff_getElem]
    intro i j hi hj hij
    rwa [horder.idxOf_getElem i hi, horder.idxOf_getElem j hj]
  have hsorted : ∀ {l : Entries α}, l.keys.Sublist order →
      l.Pairwise fun a b => order.idxOf a.1 < order.idxOf b.1 := by
    intro l hl
    have hkeys := hplaces.sublist hl
    rwa [keys, List.pairwise_map] at hkeys
  exact hperm.eq_of_pairwise (fun a b _ _ hab hba => absurd hab (Nat.lt_asymm hba)) (hsorted h)
    (hsorted h')

/-- The keys of the entries that are found under some keys are among these, in order. -/
lemma keys_filterMap_sublist (f : String → Option α) (keys : List String) :
    Entries.keys (keys.filterMap fun key => (f key).map fun value => (key, value)) |>.Sublist keys := by
  induction keys with
  | nil => exact List.nil_sublist _
  | cons key keys ih =>
    cases hvalue : f key with
    | none =>
      rw [List.filterMap_cons_none (by simp [hvalue])]
      exact ih.cons key
    | some value =>
      rw [List.filterMap_cons_some (b := (key, value)) (by simp [hvalue])]
      exact ih.cons_cons key

end Entries

/-! ## What is to be shown -/

/-- An entry of a record is shown: it is not the id, and its value is neither null nor the empty text
nor the empty list. -/
def Fields.Appears (entry : String × Value) : Prop :=
  entry.1 ≠ "id" ∧ entry.2 ≠ .null ∧ entry.2 ≠ .text "" ∧ entry.2 ≠ .list []

/-- A value is hidden if it is null, the empty text or the empty list. -/
lemma Value.isHidden_iff {value : Value} :
    value.isHidden = true ↔ value = .null ∨ value = .text "" ∨ value = .list [] := by
  cases value <;> simp [isHidden]

/-- An entry is shown just if it is not the id and not hidden. -/
lemma Fields.appears_iff {entry : String × Value} :
    Fields.Appears entry ↔ entry.1 ≠ "id" ∧ entry.2.isHidden = false := by
  rw [Fields.Appears, ← Bool.not_eq_true, Value.isHidden_iff, not_or, not_or]

instance (entry : String × Value) : Decidable (Fields.Appears entry) :=
  decidable_of_iff _ Fields.appears_iff.symm

namespace Schema

/-- The order in which the keys of a record are shown: the fields of the schema in their order, the two
times, and all other keys in the order of the record. -/
def displayOrder (s : Schema) (record : Fields) : List String :=
  s.fields.map Field.name ++ ["createdAt", "updatedAt"] ++
    record.keys.filter fun key => key ∉ s.fields.map Field.name ++ ["createdAt", "updatedAt"]

/-- A list shows a record: it has those entries of the record that are to be shown, each as often as the
record, and their keys are in order. -/
structure Presents (s : Schema) (record shown : Fields) : Prop where
  perm : shown.Perm (record.filter fun entry => Fields.Appears entry)
  order : shown.keys.Sublist (s.displayOrder record)

end Schema

namespace Shell

variable {s : Schema} {kind : Entity} {record shown : Fields} {entry : String × Value}

/-- No field of a schema and neither time is called like another or like the id. -/
lemma nodup_orderedNames (kind : Entity) : ("id" :: orderedNames (.ofEntity kind)).Nodup := by
  cases kind <;> decide

/-- The order of the keys of a record with different keys has no key twice. -/
lemma nodup_displayOrder (kind : Entity) (h : record.keys.Nodup) :
    ((Schema.ofEntity kind).displayOrder record).Nodup := by
  refine List.nodup_append'.2 ⟨(nodup_orderedNames kind).of_cons, h.filter _, ?_⟩
  intro key hordered hother
  have hnot := (List.mem_filter.1 hother).2
  rw [decide_eq_true_eq] at hnot
  exact hnot hordered

/-- The entries of a record that are shown in a fixed order. -/
def placedFields (s : Schema) (record : Fields) : Fields :=
  (orderedNames s).filterMap fun name =>
    ((Entries.value? record name).filter fun value => !value.isHidden).map fun value => (name, value)

/-- The other entries of a record that are shown. -/
def furtherFields (s : Schema) (record : Fields) : Fields :=
  (record.filter fun entry => entry.1 ∉ orderedNames s).filter fun entry => Fields.Appears entry

/-- The entries that are shown come from two passes. -/
lemma shownFields_eq (s : Schema) (record : Fields) :
    shownFields s record = placedFields s record ++ furtherFields s record := by
  unfold shownFields
  dsimp only
  refine congrArg₂ _ ?_ ?_
  · refine List.filterMap_congr fun name _ => ?_
    cases Entries.value? record name with
    | none => rfl
    | some value => cases hvalue : value.isHidden <;> simp [hvalue]
  · rw [furtherFields, List.filter_filter]
    refine List.filter_congr fun entry _ => ?_
    rw [Bool.eq_iff_iff]
    simp [Fields.appears_iff]
    tauto

/-- In a fixed order are shown the values under the names with a fixed place that are not hidden. -/
lemma mem_placedFields : entry ∈ placedFields s record ↔ entry.1 ∈ orderedNames s ∧
    record.value? entry.1 = some entry.2 ∧ entry.2.isHidden = false := by
  obtain ⟨key, value⟩ := entry
  simp only [placedFields, List.mem_filterMap, Option.map_eq_some_iff, Prod.mk.injEq]
  constructor
  · rintro ⟨name, hname, shown, hshown, rfl, rfl⟩
    obtain ⟨hvalue, hhidden⟩ := Option.filter_eq_some_iff.1 hshown
    exact ⟨hname, hvalue, by simpa using hhidden⟩
  · rintro ⟨hname, hvalue, hhidden⟩
    exact ⟨key, hname, value, Option.filter_eq_some_iff.2 ⟨hvalue, by simpa using hhidden⟩, rfl, rfl⟩

/-- The others are those with no fixed place. -/
lemma mem_furtherFields : entry ∈ furtherFields s record ↔
    (entry ∈ record ∧ Fields.Appears entry) ∧ entry.1 ∉ orderedNames s := by
  simp [furtherFields, and_assoc]

/-- What is shown under the name of a field is the value that the record has there. -/
lemma value?_of_mem_shownFields {f : Field} {value : Value} (hf : f ∈ s.fields)
    (h : (f.name, value) ∈ shownFields s record) :
    record.value? f.name = some value ∧ value.isHidden = false := by
  have hplaced : f.name ∈ orderedNames s := List.mem_append_left _ (List.mem_map_of_mem hf)
  rw [shownFields_eq, List.mem_append, mem_placedFields, mem_furtherFields] at h
  exact (h.resolve_right fun hfurther => hfurther.2 hplaced).2

/-- What is shown of a record with different keys are the entries that are to be shown. -/
lemma mem_shownFields (h : record.keys.Nodup) :
    entry ∈ shownFields (.ofEntity kind) record ↔ entry ∈ record ∧ Fields.Appears entry := by
  have hid : entry.1 ∈ orderedNames (.ofEntity kind) → entry.1 ≠ "id" := by
    intro hname heq
    exact (List.nodup_cons.1 (nodup_orderedNames kind)).1 (heq ▸ hname)
  rw [shownFields_eq, List.mem_append, mem_placedFields, mem_furtherFields,
    Entries.value?_eq_some_iff h, Fields.appears_iff]
  tauto

/-- What is shown is in order. -/
lemma keys_shownFields (s : Schema) (record : Fields) :
    (shownFields s record).keys.Sublist (s.displayOrder record) := by
  rw [shownFields_eq, Entries.keys, List.map_append]
  refine List.Sublist.append (Entries.keys_filterMap_sublist _ _) ?_
  rw [Entries.keys, List.filter_map]
  exact List.filter_sublist.map Prod.fst

/-- What is shown presents the record, if its keys are different. -/
lemma presents_shownFields (h : record.keys.Nodup) :
    (Schema.ofEntity kind).Presents record (shownFields (.ofEntity kind) record) := by
  have hkeys := keys_shownFields (.ofEntity kind) record
  refine ⟨?_, hkeys⟩
  have hshown : (shownFields (.ofEntity kind) record).Nodup :=
    .of_map _ (hkeys.nodup (nodup_displayOrder kind h))
  refine (List.perm_ext_iff_of_nodup hshown ((List.Nodup.of_map _ h).filter _)).2 fun entry => ?_
  rw [mem_shownFields h, List.mem_filter, decide_eq_true_eq]

/-- There is one list that presents a record with different keys, and it is what is shown. -/
theorem presents_iff (h : record.keys.Nodup) : (Schema.ofEntity kind).Presents record shown ↔
    shown = shownFields (.ofEntity kind) record := by
  have hpresents : (Schema.ofEntity kind).Presents record (shownFields (.ofEntity kind) record) :=
    presents_shownFields h
  constructor
  · intro hshown
    exact Entries.eq_of_perm (nodup_displayOrder kind h) hshown.order hpresents.order
      (hshown.perm.trans hpresents.perm.symm)
  · rintro rfl
    exact hpresents

/-! ## The command -/

/-- A command that shows a record writes a heading and a line for each field that is shown. -/
lemma perform_info {w : World} {c : Command} {r : Record} (hentity : c.entity = some kind.name)
    (hfound : w.store.find? kind c.recordId? = some r) (hcalls : w.CanFind) :
    (info c).perform w = (.ok (), { w with
      calls := w.calls + 2
      journal := w.journal ++ ((Text.capitalize kind.name ++ " " ++ r.id) ::
        (shownFields (.ofEntity kind) r.fields).map fieldLine).map .line }) := by
  obtain ⟨hrepository, hget⟩ := hcalls
  unfold info
  rw [perform_bind_of_ok (perform_requireEntity hentity _ w)]
  dsimp only
  rw [perform_bind_of_ok (perform_repository kind hrepository),
    perform_bind_of_ok (perform_findRecord kind c.recordId? hget)]
  dsimp only
  rw [hfound]
  dsimp only [Option.map]
  rw [perform_say_bind, perform_bind_of_ok (perform_schema kind _), sayAll, perform_note]
  simp [Fields.display, Record.fields, Entries.value?, Value.display]

/-- **`info` shows every field once.** For every kind and every record with different keys there is one
list that presents the record, and it is what is shown: it has every entry of the record but the id
whose value is neither null nor the empty text nor the empty list, each once, and nothing else; first
come the fields of the schema in their order, then the two times, then all others in the order of the
record. A command that shows a record of a store writes a heading and a line for each entry of this
list, and does nothing else.

**Proof sketch.** The entries that are shown are taken from two passes. An entry is met in the first one
if its key has a fixed place, and in the second one if it has none. -/
theorem info_presents (kind : Entity) :
    (∀ record : Fields, record.keys.Nodup → ∀ shown,
      (Schema.ofEntity kind).Presents record shown ↔ shown = shownFields (.ofEntity kind) record) ∧
    ∀ (w : World) (c : Command) (r : Record), c.entity = some kind.name →
      w.store.find? kind c.recordId? = some r → r.fields.keys.Nodup → w.CanFind →
      ∃ shown, (Schema.ofEntity kind).Presents r.fields shown ∧
        (info c).perform w = (.ok (), { w with
          calls := w.calls + 2
          journal := w.journal ++ ((Text.capitalize kind.name ++ " " ++ r.id) ::
            shown.map fieldLine).map .line }) :=
  ⟨fun _ h _ => presents_iff h, fun _ _ _ hentity hfound hkeys hcalls =>
    ⟨_, presents_shownFields hkeys, perform_info hentity hfound hcalls⟩⟩

/-- A program with a parent, which is no field of programs, a zero, a truth value, and fields with
nothing to show. -/
theorem info_presents_apollo :
    let data : Fields := [("zeta", .int 0), ("notes", .text ""), ("title", .text "Apollo"),
      ("done", .bool false), ("tags", .list []), ("parentId", .text "P1"), ("status", .text "active")]
    let w : World :=
      { store := (Store.empty (.ofQueue ["A1"]) {}).after [.create .program data], session := {} }
    let c : Command := { entity := some "program", target := some "a1" }
    ∃ r shown, w.store.find? .program c.recordId? = some r ∧ r.fields.keys.Nodup ∧
      (Schema.ofEntity .program).Presents r.fields shown ∧
      shown.keys = ["title", "status", "createdAt", "updatedAt", "parentId", "zeta", "done"] ∧
      ((info c).perform w).2.lines = "Program A1" :: shown.map fieldLine := by
  intro data w c
  have hshown : (w.store.find? .program c.recordId?).map (fun r => (r.id, r.fields.keys,
      (shownFields (.ofEntity .program) r.fields).keys)) = some ("A1",
        ["id", "title", "parentId", "zeta", "notes", "done", "tags", "status", "createdAt",
          "updatedAt"],
        ["title", "status", "createdAt", "updatedAt", "parentId", "zeta", "done"]) := by
    decide +kernel
  obtain ⟨r, hfound, hr⟩ := Option.map_eq_some_iff.1 hshown
  obtain ⟨hid, hkeys⟩ := Prod.mk.inj hr
  obtain ⟨hkeys, horder⟩ := Prod.mk.inj hkeys
  have hnodup : r.fields.keys.Nodup := by
    rw [hkeys]
    decide
  obtain ⟨hone, hwrites⟩ := info_presents .program
  obtain ⟨shown, hpresents, hrun⟩ := hwrites w c r rfl hfound hnodup ⟨rfl, rfl, rfl⟩
  have hheading : Text.capitalize Entity.program.name = "Program" := by decide +kernel
  refine ⟨r, shown, hfound, hnodup, hpresents, ?_, ?_⟩
  · rw [(hone r.fields hnodup shown).1 hpresents, horder]
  · rw [hrun, hid, hheading]
    simp [w, World.lines, Occurrence.line?, Function.comp_def]

end Shell

end TaskShell
