import Mathlib.Tactic.Lemma
import TaskShell.Schema.Build

/-!
# Fields that conform to a schema

Fields conform to a schema if every field of the schema that is there has a value that it admits
and no other field is there. What is built from texts conforms, a whole record as well as a part of
one, and a record overlaid by a part that conforms conforms again. The check of the schema accepts
whatever conforms and is complete.

## Main definitions

* `Field.Admits` — the values of a field.
* `Schema.Conforms`, `Schema.Complete` — fields that conform to a schema, and have all that a whole
  record needs.

## Main results

* `Schema.conforms_of_build`, `Schema.complete_of_build` — what is built from texts.
* `Schema.Conforms.overlay` — conforming fields overlaid by conforming ones conform.
* `Schema.Conforms.accepted` — the check finds no violation in what conforms and is complete.
-/

set_option autoImplicit false

namespace TaskShell

/-! ## Values of fields -/

namespace Field

/-- The values of a field: text that is not empty, one of the words to choose from, a list of texts,
or a finite number, which lies between 0 and 100 if it is a progress. -/
def Admits (f : Field) (value : Value) : Prop :=
  match f.kind with
  | .text => ∃ s, value = .text s ∧ s ≠ ""
  | .choice words => ∃ s ∈ words, value = .text s
  | .list => ∃ items : List String, value = .list (items.map .text)
  | .number => ∃ x : Binary64, value = .float x ∧ x.isFinite = true ∧
      (f.name = "progress" → x.lessThan 0 = false ∧ x.greaterThan 100 = false)

/-- A number that is not out of range. -/
lemma inRange_of_rangeFaults {x : Binary64} (h : Schema.rangeFaults (.float x) = []) :
    x.lessThan 0 = false ∧ x.greaterThan 100 = false := by
  obtain ⟨hlow, hhigh⟩ := List.append_eq_nil_iff.1 h
  constructor
  · cases hx : x.lessThan 0 with
    | false => rfl
    | true =>
      rw [if_pos hx] at hlow
      exact nomatch hlow
  · cases hx : x.greaterThan 100 with
    | false => rfl
    | true =>
      rw [if_pos hx] at hhigh
      exact nomatch hhigh

/-- What a text denotes is admitted if the text has no problem and the value no violation. -/
lemma admits_of_convert {f : Field} {raw : String} {value : Value} (hraw : raw ≠ "")
    (hproblem : f.problem? raw = none) (hvalue : f.convert raw = .ok value)
    (haccepted : Schema.fieldViolations f value = []) : f.Admits value := by
  obtain ⟨name, label, kind, aliases, guided⟩ := f
  cases kind with
  | text =>
    cases hvalue
    exact ⟨raw, rfl, hraw⟩
  | choice words =>
    cases hvalue
    refine ⟨Text.lower raw, ?_, rfl⟩
    simp only [Schema.fieldViolations] at haccepted
    split at haccepted
    · next hword => exact List.contains_iff_mem.1 hword
    · exact nomatch haccepted
  | list =>
    cases hvalue
    exact ⟨items raw, rfl⟩
  | number =>
    simp only [problem?, if_neg hraw] at hproblem
    simp only [convert] at hvalue
    cases hread : Number.readFloat? raw with
    | none =>
      rw [hread] at hvalue
      exact nomatch hvalue
    | some x =>
      rw [hread] at hvalue hproblem
      cases hvalue
      refine ⟨x, rfl, ?_, fun hname => ?_⟩
      · dsimp only at hproblem
        split at hproblem
        · next hfinite => exact hfinite
        · exact nomatch hproblem
      · dsimp only at hname
        simp only [Schema.fieldViolations, hname, if_true, List.map_eq_nil_iff] at haccepted
        exact inRange_of_rangeFaults haccepted

/-- A list of texts has no violation. -/
lemma itemViolations_texts (name : String) (items : List String) :
    Schema.itemViolations name (items.map .text) = [] := by
  unfold Schema.itemViolations
  rw [List.map_eq_nil_iff, List.filter_eq_nil_iff]
  rintro ⟨item, place⟩ hitem
  obtain ⟨s, -, rfl⟩ := List.mem_map.1 (List.fst_mem_of_mem_zipIdx hitem)
  simp

/-- An admitted value has no violation. -/
lemma fieldViolations_of_admits {f : Field} {value : Value} (h : f.Admits value) :
    Schema.fieldViolations f value = [] := by
  obtain ⟨name, label, kind, aliases, guided⟩ := f
  cases kind with
  | text =>
    obtain ⟨s, rfl, hs⟩ := h
    simp [Schema.fieldViolations, hs]
  | choice words =>
    obtain ⟨s, hs, rfl⟩ := h
    simp [Schema.fieldViolations, hs]
  | list =>
    obtain ⟨items, rfl⟩ := h
    exact itemViolations_texts name items
  | number =>
    obtain ⟨x, rfl, -, hrange⟩ := h
    simp only [Schema.fieldViolations]
    split
    · next hname => simp [Schema.rangeFaults, hrange hname]
    · rfl

end Field

namespace Schema

/-! ## Reading texts -/

variable {given : String → Option String} {f : Field} {fs : List Field} {record : Fields}

/-- A field that is read: there is no text, or the text has no problem and denotes a value. -/
lemma readField_cases (h : readField f given = .ok record) :
    ((given f.name).filter (· != "") = none ∧ record = []) ∨
      ∃ raw value, (given f.name).filter (· != "") = some raw ∧ f.problem? raw = none ∧
        f.convert raw = .ok value ∧ record = [(f.name, value)] := by
  unfold readField at h
  split at h
  · next hnone =>
    cases h
    exact .inl ⟨hnone, rfl⟩
  · next raw hraw =>
    split at h
    · exact nomatch h
    · next hproblem =>
      split at h
      · next value hvalue =>
        cases h
        exact .inr ⟨raw, value, hraw, hproblem, hvalue, rfl⟩
      · exact nomatch h

/-- Several fields that are read: the first of them, and the others. -/
lemma readFields_cons (h : readFields given (f :: fs) = .ok record) :
    ∃ first rest, readField f given = .ok first ∧ readFields given fs = .ok rest ∧
      record = first ++ rest := by
  unfold readFields at h
  cases hfirst : readField f given with
  | error e =>
    rw [hfirst] at h
    exact nomatch h
  | ok first =>
    cases hrest : readFields given fs with
    | error e =>
      rw [hfirst, hrest] at h
      exact nomatch h
    | ok rest =>
      rw [hfirst, hrest] at h
      cases h
      exact ⟨first, rest, rfl, rfl, rfl⟩

/-- A field that is read has its name as its only key. -/
lemma keys_of_readField (h : readField f given = .ok record) : record.keys.Sublist [f.name] := by
  rcases readField_cases h with ⟨-, rfl⟩ | ⟨raw, value, -, -, -, rfl⟩
  · exact List.nil_sublist _
  · exact List.Sublist.refl _

/-- The fields that are read come in order. -/
lemma keys_of_readFields (h : readFields given fs = .ok record) :
    record.keys.Sublist (fs.map Field.name) := by
  induction fs generalizing record with
  | nil =>
    cases h
    exact List.nil_sublist _
  | cons f fs ih =>
    obtain ⟨first, rest, hfirst, hrest, rfl⟩ := readFields_cons h
    rw [Entries.keys, List.map_append]
    exact (keys_of_readField hfirst).append (ih hrest)

/-- Among fields that are read, each has the value that is read for it. -/
lemma value?_of_readFields (hnames : (fs.map Field.name).Nodup)
    (h : readFields given fs = .ok record) (hf : f ∈ fs) :
    ∃ read, readField f given = .ok read ∧ record.value? f.name = Entries.value? read f.name := by
  induction fs generalizing record with
  | nil => exact nomatch hf
  | cons g gs ih =>
    obtain ⟨first, rest, hfirst, hrest, rfl⟩ := readFields_cons h
    obtain ⟨hg, hgs⟩ := List.nodup_cons.1 hnames
    rw [Entries.value?_append]
    rcases List.mem_cons.1 hf with rfl | hf
    · have habsent : f.name ∉ rest.keys := fun hmem => hg ((keys_of_readFields hrest).subset hmem)
      exact ⟨first, hfirst, by rw [Entries.value?_eq_none_iff.2 habsent, Option.or_none]⟩
    · obtain ⟨read, hread, hvalue⟩ := ih hgs hrest hf
      have habsent : f.name ∉ first.keys := by
        intro hmem
        have hname := List.mem_singleton.1 ((keys_of_readField hfirst).subset hmem)
        exact hg (hname ▸ List.mem_map_of_mem hf)
      exact ⟨read, hread,
        by rw [Entries.value?_eq_none_iff.2 habsent, hvalue, Option.none_or]⟩

/-! ## Conformance -/

/-- Fields conform to a schema: the fields of the schema that are there have values that they admit,
and no others are there. -/
structure Conforms (s : Schema) (fields : Fields) : Prop where
  admitted : ∀ f ∈ s.fields, ∀ value, fields.value? f.name = some value → f.Admits value
  closed : ∀ key, (fields.value? key).isSome → ∃ f ∈ s.fields, f.name = key

/-- Fields have all that a whole record needs. -/
def Complete (s : Schema) (fields : Fields) : Prop :=
  ∀ name ∈ s.required, (fields.value? name).isSome

variable {s : Schema} {fields others : Fields} {isPartial : Bool}

/-- Fields with the same values conform alike. -/
lemma Conforms.congr (h : s.Conforms fields) (hvalues : ∀ key, others.value? key = fields.value? key) :
    s.Conforms others :=
  ⟨fun f hf value hvalue => h.admitted f hf value ((hvalues f.name).symm.trans hvalue),
    fun key hkey => h.closed key (by rw [← hvalues]; exact hkey)⟩

/-- Conforming fields overlaid by conforming ones conform. -/
theorem Conforms.overlay {overlaid : Fields} (h : s.Conforms fields) (hothers : s.Conforms others)
    (hvalues : ∀ key, overlaid.value? key = (others.value? key).or (fields.value? key)) :
    s.Conforms overlaid := by
  refine ⟨fun f hf value hvalue => ?_, fun key hkey => ?_⟩
  · rw [hvalues] at hvalue
    rcases Option.or_eq_some_iff.1 hvalue with hother | ⟨-, hfield⟩
    · exact hothers.admitted f hf value hother
    · exact h.admitted f hf value hfield
  · rw [hvalues, Option.isSome_or, Bool.or_eq_true] at hkey
    rcases hkey with hother | hfield
    · exact hothers.closed key hother
    · exact h.closed key hfield

/-- The schemas of all kinds name each field once. -/
lemma nodup_names (kind : Entity) : ((ofEntity kind).fields.map Field.name).Nodup := by
  cases kind <;> decide

/-- What is built is what is read, and it has no violation. -/
lemma build_eq_ok (h : s.build given isPartial = .ok record) :
    readFields given s.fields = .ok record ∧ s.fieldsViolations isPartial record = [] := by
  unfold build at h
  cases hread : readFields given s.fields with
  | error e =>
    rw [hread] at h
    exact nomatch h
  | ok read =>
    rw [hread] at h
    cases hviolations : s.fieldsViolations isPartial read with
    | nil =>
      simp only [bind, Except.bind, hviolations, Violation.reported?] at h
      cases h
      exact ⟨rfl, hviolations⟩
    | cons violation rest =>
      simp only [bind, Except.bind, hviolations, Violation.reported?] at h
      exact nomatch h

/-- No field is extraneous just if each is of the schema. -/
lemma extraneous_eq_nil_iff : s.extraneous fields = [] ↔
    ∀ key, (fields.value? key).isSome → ∃ f ∈ s.fields, f.name = key := by
  have hempty (keys : List String) : keys.mergeSort (fun a b => !(b < a)) = [] ↔ keys = [] := by
    rw [← List.length_eq_zero_iff, List.length_mergeSort, List.length_eq_zero_iff]
  rw [extraneous, hempty, List.filter_eq_nil_iff]
  simp only [Entries.value?_isSome_iff, Bool.not_eq_true, Bool.not_eq_false', List.any_eq_true,
    beq_iff_eq]

/-- Fields have no violation just if none of them has one, each is of the schema, and, unless they
are a part of a record, they are complete. -/
lemma fieldsViolations_eq_nil_iff : s.fieldsViolations isPartial fields = [] ↔
    (∀ f ∈ s.fields, ∀ value, fields.value? f.name = some value → fieldViolations f value = []) ∧
    (∀ key, (fields.value? key).isSome → ∃ f ∈ s.fields, f.name = key) ∧
    (isPartial = false → s.Complete fields) := by
  rw [fieldsViolations, List.append_eq_nil_iff, List.append_eq_nil_iff, and_assoc]
  refine and_congr ?_ (and_congr ?_ ?_)
  · rw [List.flatMap_eq_nil_iff]
    refine forall₂_congr fun f _ => ?_
    cases fields.value? f.name <;> simp
  · rw [← extraneous_eq_nil_iff]
    cases s.extraneous fields <;> simp
  · cases isPartial <;> simp [Complete, Option.isSome_iff_ne_none]

/-- What is built from texts conforms, a part of a record as well as a whole one. -/
theorem conforms_of_build {kind : Entity}
    (h : (ofEntity kind).build given isPartial = .ok record) :
    (ofEntity kind).Conforms record := by
  obtain ⟨hread, haccepted⟩ := build_eq_ok h
  refine ⟨fun f hf value hvalue => ?_, fun key hkey => ?_⟩
  · obtain ⟨read, hfield, hsame⟩ := value?_of_readFields (nodup_names kind) hread hf
    rw [hvalue] at hsame
    rcases readField_cases hfield with ⟨-, rfl⟩ | ⟨raw, v, hraw, hproblem, hv, rfl⟩
    · exact nomatch hsame
    · obtain rfl : v = value := by simpa [Entries.value?] using hsame.symm
      have hne : raw ≠ "" := by simpa using (Option.filter_eq_some_iff.1 hraw).2
      exact Field.admits_of_convert hne hproblem hv
        ((fieldsViolations_eq_nil_iff.1 haccepted).1 f hf v hvalue)
  · rw [Entries.value?_isSome_iff] at hkey
    obtain ⟨f, hf, hname⟩ := List.mem_map.1 ((keys_of_readFields hread).subset hkey)
    exact ⟨f, hf, hname⟩

/-- A whole record that is built has all that it needs. -/
theorem complete_of_build (h : s.build given = .ok record) : s.Complete record :=
  (fieldsViolations_eq_nil_iff.1 (build_eq_ok h).2).2.2 rfl

/-- No field is built twice. -/
lemma nodup_keys_of_build {kind : Entity} (h : (ofEntity kind).build given isPartial = .ok record) :
    record.keys.Nodup :=
  (keys_of_readFields (build_eq_ok h).1).nodup (nodup_names kind)

/-- What is built for a field is what its text denotes. -/
lemma value?_of_build {kind : Entity} {raw : String}
    (h : (ofEntity kind).build given isPartial = .ok record) (hf : f ∈ (ofEntity kind).fields)
    (hraw : given f.name = some raw) (hne : raw ≠ "") :
    ∃ value, f.convert raw = .ok value ∧ record.value? f.name = some value := by
  obtain ⟨read, hfield, hsame⟩ := value?_of_readFields (nodup_names kind) (build_eq_ok h).1 hf
  have hgiven : (given f.name).filter (· != "") = some raw := by simp [hraw, hne]
  rcases readField_cases hfield with ⟨hnone, -⟩ | ⟨r, value, hr, -, hvalue, rfl⟩
  · rw [hgiven] at hnone
    exact nomatch hnone
  · obtain rfl := Option.some.inj (hgiven.symm.trans hr)
    exact ⟨value, hvalue, by simpa [Entries.value?] using hsame⟩

/-- The check finds no violation in what conforms and is complete. -/
theorem Conforms.accepted (h : s.Conforms fields) (hcomplete : s.Complete fields) :
    s.fieldsViolations false fields = [] :=
  fieldsViolations_eq_nil_iff.2
    ⟨fun f hf value hvalue => Field.fieldViolations_of_admits (h.admitted f hf value hvalue),
      h.closed, fun _ => hcomplete⟩

end Schema

end TaskShell
