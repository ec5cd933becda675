import Mathlib.Data.List.Forall2
import Mathlib.Tactic.Lemma
import TaskShell.Proofs.Schema.Keywords
import TaskShell.Proofs.Store.Validity

/-!
# When records can be built

A field is described three times: by what is a problem with a text, by the value that a text
denotes, and by the document that values are checked against. The three agree. A text without a
problem denotes a value, and the only thing that the check can have against that value is the range
of a progress. So building from texts fails for three reasons and no others: a text has a problem, a
progress is out of range, or a whole record lacks its title or its parent.

## Main definitions

* `Schema.givenText` — the text for a field, if there is one.
* `Schema.Buildable` — texts from which a record can be built.
* `Schema.Holds` — fields that hold what texts denote, and no more.
* `Schema.Refuses` — the ways in which building fails.

## Main results

* `Field.convert_of_problem?`, `Field.violation_of_convert` — the three descriptions agree.
* `Schema.build_iff` — when building succeeds, what it gives, and how it fails.
-/

set_option autoImplicit false

namespace TaskShell

/-! ## One field -/

/-- A number between 0 and 100. -/
def Binary64.IsPercent (x : Binary64) : Prop :=
  ∃ q, x.rational? = some q ∧ 0 ≤ q ∧ q ≤ 100

namespace Field

variable {f : Field} {raw : String} {value : Value}

/-- The number that a text without a problem denotes. -/
lemma readFloat?_of_problem? (hkind : f.kind = .number) (hraw : raw ≠ "")
    (hproblem : f.problem? raw = none) :
    ∃ x, Number.readFloat? raw = some x ∧ x.isFinite = true ∧ f.convert raw = .ok (.float x) := by
  simp only [problem?, if_neg hraw, hkind] at hproblem
  cases hread : Number.readFloat? raw with
  | none =>
    rw [hread] at hproblem
    cases hproblem
  | some x =>
    rw [hread] at hproblem
    dsimp only at hproblem
    split at hproblem
    · next hfinite => exact ⟨x, rfl, hfinite, by simp only [convert, hkind, hread]⟩
    · cases hproblem

/-- A text without a problem denotes a value. -/
lemma convert_of_problem? (hraw : raw ≠ "") (hproblem : f.problem? raw = none) :
    ∃ value, f.convert raw = .ok value := by
  cases hkind : f.kind with
  | text => exact ⟨.text raw, by simp only [convert, hkind]⟩
  | choice words => exact ⟨.text (Text.lower raw), by simp only [convert, hkind]⟩
  | list => exact ⟨.list ((items raw).map .text), by simp only [convert, hkind]⟩
  | number =>
    obtain ⟨x, -, -, hx⟩ := readFloat?_of_problem? hkind hraw hproblem
    exact ⟨.float x, hx⟩

/-- A choice without a problem is one of the words, letter case aside. -/
lemma lower_mem_of_rejection? {label : String} {words : List String}
    (h : Choice.rejection? label raw words = none) : Text.lower raw ∈ words := by
  simp only [Choice.rejection?] at h
  split at h
  · next hword => exact List.contains_iff_mem.1 hword
  · exact nomatch h

/-- A finite number is in range just if it has no fault. -/
lemma rangeFaults_eq_nil_iff {x : Binary64} (hfinite : x.isFinite = true) :
    Schema.rangeFaults (.float x) = [] ↔ x.IsPercent := by
  cases x with
  | finite negative significand exponent fits =>
    simp [Schema.rangeFaults, Binary64.IsPercent, Binary64.rational?, Binary64.lessThan_finite_iff,
      Binary64.greaterThan_finite_iff]
  | infinite negative => cases hfinite
  | nan => cases hfinite

/-- The check has nothing against the value of a text without a problem, but for the range of a
progress. -/
lemma fieldViolations_of_convert (hraw : raw ≠ "") (hproblem : f.problem? raw = none)
    (hvalue : f.convert raw = .ok value) :
    Schema.fieldViolations f value =
      if f.kind = .number ∧ f.name = "progress" then
        (Schema.rangeFaults value).map fun fault => ⟨[.field f.name], fault⟩
      else [] := by
  obtain ⟨name, label, kind, aliases, guided⟩ := f
  cases kind with
  | text =>
    cases hvalue
    simp [Schema.fieldViolations, hraw]
  | choice words =>
    cases hvalue
    simp only [problem?, if_neg hraw, Option.map_eq_none_iff] at hproblem
    simp [Schema.fieldViolations, lower_mem_of_rejection? hproblem]
  | list =>
    cases hvalue
    simp [Schema.fieldViolations, itemViolations_texts]
  | number =>
    obtain ⟨x, -, -, hx⟩ := readFloat?_of_problem? rfl hraw hproblem
    obtain rfl : Value.float x = value := Except.ok.inj (hx.symm.trans hvalue)
    simp [Schema.fieldViolations]

end Field

namespace Schema

variable {s : Schema} {kind : Entity} {given others : String → Option String} {isPartial : Bool}
  {f : Field} {fs : List Field} {record : Fields}

/-! ## What is built, and how building fails -/

/-- The text that is given for a name, unless it is empty. -/
def givenText (given : String → Option String) (name : String) : Option String :=
  (given name).filter (· != "")

/-- Texts from which a record can be built: no text is a problem for its field, a progress is in
range, and unless a part of a record is built there is a title, and a parent for all kinds but
programs. -/
structure Buildable (kind : Entity) (given : String → Option String) (isPartial : Bool) : Prop where
  readable : ∀ f ∈ (ofEntity kind).fields, ∀ raw, givenText given f.name = some raw →
    f.problem? raw = none
  inRange : progress ∈ (ofEntity kind).fields → ∀ raw, givenText given "progress" = some raw →
    ∃ x, Number.readFloat? raw = some x ∧ x.IsPercent
  complete : isPartial = true ∨ (givenText given "title").isSome ∧
    (kind ≠ .program → (givenText given "parentId").isSome)

/-- Fields hold what the texts for some fields denote, in order, and nothing else. -/
def Holds (given : String → Option String) (fs : List Field) (record : Fields) : Prop :=
  List.Forall₂
    (fun f entry => entry.1 = f.name ∧
      ∃ raw, givenText given f.name = some raw ∧ f.convert raw = .ok entry.2)
    (fs.filter fun f => (givenText given f.name).isSome) record

/-- The ways in which building fails: a text is a problem for its field, a progress is out of range,
or something is missing from a whole record. -/
inductive Refuses (s : Schema) (given : String → Option String) (isPartial : Bool) : Error → Prop
  | problem {f : Field} {raw : String} {problem : Field.Problem} (field_mem : f ∈ s.fields)
      (given_eq : givenText given f.name = some raw) (problem_eq : f.problem? raw = some problem) :
      Refuses s given isPartial (.field problem)
  | range {raw : String} {x : Binary64} {fault : Fault} (field_mem : progress ∈ s.fields)
      (given_eq : givenText given "progress" = some raw)
      (read_eq : Number.readFloat? raw = some x) (fault_mem : fault ∈ rangeFaults (.float x)) :
      Refuses s given isPartial (.violation ⟨[.field "progress"], fault⟩)
  | missing {name : String} (whole : isPartial = false) (required : name ∈ s.required)
      (given_eq : givenText given name = none) :
      Refuses s given isPartial (.violation ⟨[], .missing name⟩)

/-! ## Reading the texts -/

/-- What reading a field gives, and how it fails. -/
lemma readField_spec (f : Field) (given : String → Option String) :
    match readField f given with
    | .ok fields => (∀ raw, givenText given f.name = some raw → f.problem? raw = none) ∧
        Holds given [f] fields
    | .error e => ∃ raw problem, givenText given f.name = some raw ∧
        f.problem? raw = some problem ∧ e = .field problem := by
  cases hgiven : givenText given f.name with
  | none =>
    have hread : readField f given = .ok [] := by
      simp only [readField, show (given f.name).filter (· != "") = none from hgiven]
    simp [hread, Holds, hgiven]
  | some raw =>
    have hraw : raw ≠ "" := by simpa using (Option.filter_eq_some_iff.1 hgiven).2
    cases hproblem : f.problem? raw with
    | some problem =>
      have hread : readField f given = .error (.field problem) := by
        simp only [readField, show (given f.name).filter (· != "") = some raw from hgiven, hproblem]
      rw [hread]
      exact ⟨raw, problem, rfl, hproblem, rfl⟩
    | none =>
      obtain ⟨value, hvalue⟩ := Field.convert_of_problem? hraw hproblem
      have hread : readField f given = .ok [(f.name, value)] := by
        simp only [readField, show (given f.name).filter (· != "") = some raw from hgiven, hproblem,
          hvalue]
      simp [hread, Holds, hgiven, hproblem, hvalue]

/-- What reading several fields gives, and how it fails. -/
lemma readFields_spec (given : String → Option String) (fs : List Field) :
    match readFields given fs with
    | .ok record => (∀ f ∈ fs, ∀ raw, givenText given f.name = some raw → f.problem? raw = none) ∧
        Holds given fs record
    | .error e => ∃ f ∈ fs, ∃ raw problem, givenText given f.name = some raw ∧
        f.problem? raw = some problem ∧ e = .field problem := by
  induction fs with
  | nil => exact ⟨by simp, .nil⟩
  | cons f fs ih =>
    have hfirst := readField_spec f given
    rw [readFields]
    cases hf : readField f given with
    | error e =>
      rw [hf] at hfirst
      exact ⟨f, List.mem_cons_self, hfirst⟩
    | ok first =>
      rw [hf] at hfirst
      cases hfs : readFields given fs with
      | error e =>
        rw [hfs] at ih
        obtain ⟨g, hg, h⟩ := ih
        exact ⟨g, List.mem_cons_of_mem f hg, h⟩
      | ok rest =>
        rw [hfs] at ih
        refine ⟨List.forall_mem_cons.2 ⟨hfirst.1, ih.1⟩, ?_⟩
        rw [Holds, ← List.singleton_append, List.filter_append]
        exact List.rel_append hfirst.2 ih.2

/-- Reading depends on the texts for the fields alone. -/
lemma readFields_congr (h : ∀ f ∈ fs, givenText others f.name = givenText given f.name) :
    readFields others fs = readFields given fs := by
  induction fs with
  | nil => rfl
  | cons f fs ih =>
    obtain ⟨hf, hfs⟩ := List.forall_mem_cons.1 h
    have hfirst : readField f others = readField f given := by
      simp only [readField, show (others f.name).filter (· != "") = (given f.name).filter (· != "")
        from hf]
    rw [readFields, readFields, hfirst, ih hfs]

/-- What is read for a field: nothing without a text, else the value of the text. -/
lemma value?_cases (hnames : (fs.map Field.name).Nodup) (h : readFields given fs = .ok record)
    (hf : f ∈ fs) :
    (givenText given f.name = none ∧ record.value? f.name = none) ∨
      ∃ raw value, givenText given f.name = some raw ∧ raw ≠ "" ∧ f.problem? raw = none ∧
        f.convert raw = .ok value ∧ record.value? f.name = some value := by
  obtain ⟨read, hread, hvalue⟩ := value?_of_readFields hnames h hf
  rcases readField_cases hread with ⟨hnone, rfl⟩ | ⟨raw, value, hraw, hproblem, hconvert, rfl⟩
  · exact .inl ⟨hnone, hvalue⟩
  · have hne : raw ≠ "" := by simpa using (Option.filter_eq_some_iff.1 hraw).2
    exact .inr ⟨raw, value, hraw, hne, hproblem, hconvert, by simpa [Entries.value?] using hvalue⟩

/-! ## Checking what is read -/

/-- A violation is reported just if there is one. -/
lemma reported?_eq_none_iff {vs : List Violation} : Violation.reported? vs = none ↔ vs = [] := by
  cases vs <;> simp [Violation.reported?]

/-- What is reported is a violation. -/
lemma mem_of_reported? {vs : List Violation} {v : Violation}
    (h : Violation.reported? vs = some v) : v ∈ vs := by
  cases vs with
  | nil => exact nomatch h
  | cons first rest =>
    obtain rfl := Option.some.inj h
    clear h
    induction rest generalizing first with
    | nil => exact List.mem_singleton_self first
    | cons next rest ih =>
      rw [List.foldl_cons]
      split
      · exact List.mem_cons_of_mem first (ih next)
      · rcases List.mem_cons.1 (ih first) with heq | hmem
        · rw [heq]
          exact List.mem_cons_self
        · exact List.mem_cons_of_mem first (List.mem_cons_of_mem next hmem)

/-- There is one field named for the progress. -/
lemma eq_progress (hf : f ∈ (ofEntity kind).fields) (hname : f.name = "progress") :
    f = progress := by
  have hall : ∀ g ∈ (ofEntity kind).fields, g.name = "progress" → g = progress := by
    cases kind <;> decide
  exact hall f hf hname

/-- What whole records need is among their fields. -/
lemma exists_of_mem_required {name : String} (h : name ∈ (ofEntity kind).required) :
    ∃ f ∈ (ofEntity kind).fields, f.name = name := by
  have hall : ∀ name ∈ (ofEntity kind).required, ∃ f ∈ (ofEntity kind).fields, f.name = name := by
    cases kind <;> decide
  exact hall name h

/-- A whole record needs a title, and a parent if it is no program. -/
lemma mem_required_iff {name : String} : name ∈ (ofEntity kind).required ↔
    name = "title" ∨ kind ≠ .program ∧ name = "parentId" := by
  cases kind <;> simp [required, requiresParent, ofEntity, Entity.parent?]

section

variable (hread : readFields given (ofEntity kind).fields = .ok record)

include hread

/-- What is read has values for what there are texts for. -/
lemma value?_isSome_iff_givenText {name : String}
    (hname : ∃ f ∈ (ofEntity kind).fields, f.name = name) :
    (record.value? name).isSome ↔ (givenText given name).isSome := by
  obtain ⟨f, hf, rfl⟩ := hname
  rcases value?_cases (nodup_names kind) hread hf with
    ⟨hnone, hvalue⟩ | ⟨raw, value, hraw, -, -, -, hvalue⟩
  · simp [hnone, hvalue]
  · simp [hraw, hvalue]

/-- What is read has no fields besides those of the schema. -/
lemma extraneous_of_readFields : (ofEntity kind).extraneous record = [] := by
  rw [extraneous_eq_nil_iff]
  intro key hkey
  rw [Entries.value?_isSome_iff] at hkey
  exact List.mem_map.1 ((keys_of_readFields hread).subset hkey)

/-- A violation in what is read is a reason to refuse it. -/
lemma refuses_of_mem_fieldsViolations {v : Violation}
    (hv : v ∈ (ofEntity kind).fieldsViolations isPartial record) :
    Refuses (ofEntity kind) given isPartial (.violation v) := by
  -- No field is extraneous, so the violation lies in a field or is something that is missing.
  rw [fieldsViolations, extraneous_of_readFields hread, List.append_nil, List.mem_append] at hv
  rcases hv with hfieldwise | hmissing
  · obtain ⟨f, hf, hv⟩ := List.mem_flatMap.1 hfieldwise
    rcases value?_cases (nodup_names kind) hread hf with
      ⟨-, hvalue⟩ | ⟨raw, value, hraw, hne, hproblem, hconvert, hvalue⟩
    · rw [hvalue] at hv
      cases hv
    · rw [hvalue] at hv
      dsimp only at hv
      rw [Field.fieldViolations_of_convert hne hproblem hconvert] at hv
      split at hv
      · next hrange =>
        obtain rfl := eq_progress hf hrange.2
        obtain ⟨x, hx, -, hfloat⟩ := Field.readFloat?_of_problem? rfl hne hproblem
        obtain rfl : Value.float x = value := Except.ok.inj (hfloat.symm.trans hconvert)
        obtain ⟨fault, hfault, rfl⟩ := List.mem_map.1 hv
        exact .range hf hraw hx hfault
      · cases hv
  · cases isPartial with
    | true => cases hmissing
    | false =>
      obtain ⟨name, hname, rfl⟩ := List.mem_map.1 hmissing
      obtain ⟨hrequired, hnone⟩ := List.mem_filter.1 hname
      refine .missing rfl hrequired ?_
      have hiff := value?_isSome_iff_givenText hread (exists_of_mem_required hrequired)
      rw [← Option.not_isSome_iff_eq_none, ← hiff, Option.not_isSome_iff_eq_none]
      exact Option.isNone_iff_eq_none.1 hnone

/-- The values that are read have no violation just if a progress among them is in range. -/
lemma fieldwise_iff_inRange :
    (∀ f ∈ (ofEntity kind).fields, ∀ value, record.value? f.name = some value →
      fieldViolations f value = []) ↔
    (progress ∈ (ofEntity kind).fields → ∀ raw, givenText given "progress" = some raw →
      ∃ x, Number.readFloat? raw = some x ∧ x.IsPercent) := by
  constructor
  · intro h hmem raw hraw
    rcases value?_cases (nodup_names kind) hread hmem with
      ⟨hnone, -⟩ | ⟨r, value, hr, hne, hproblem, hconvert, hvalue⟩
    · exact nomatch hnone.symm.trans hraw
    · obtain rfl : r = raw := Option.some.inj (hr.symm.trans hraw)
      obtain ⟨x, hx, hfinite, hfloat⟩ := Field.readFloat?_of_problem? rfl hne hproblem
      obtain rfl : Value.float x = value := Except.ok.inj (hfloat.symm.trans hconvert)
      have hnone := h progress hmem (.float x) hvalue
      rw [Field.fieldViolations_of_convert hne hproblem hconvert, if_pos ⟨rfl, rfl⟩,
        List.map_eq_nil_iff] at hnone
      exact ⟨x, hx, (Field.rangeFaults_eq_nil_iff hfinite).1 hnone⟩
  · intro h f hf value hvalue
    rcases value?_cases (nodup_names kind) hread hf with
      ⟨-, hnone⟩ | ⟨raw, v, hraw, hne, hproblem, hconvert, hv⟩
    · exact nomatch hnone.symm.trans hvalue
    · obtain rfl : v = value := Option.some.inj (hv.symm.trans hvalue)
      rw [Field.fieldViolations_of_convert hne hproblem hconvert]
      split
      · next hrange =>
        obtain rfl := eq_progress hf hrange.2
        obtain ⟨x, hx, hfinite, hfloat⟩ := Field.readFloat?_of_problem? rfl hne hproblem
        obtain rfl : Value.float x = v := Except.ok.inj (hfloat.symm.trans hconvert)
        obtain ⟨y, hy, hpercent⟩ := h hf raw hraw
        obtain rfl : x = y := Option.some.inj (hx.symm.trans hy)
        rw [(Field.rangeFaults_eq_nil_iff hfinite).2 hpercent, List.map_nil]
      · rfl

/-- What is read has no violation just if a record can be built from the texts. -/
lemma fieldsViolations_eq_nil_iff_buildable :
    (ofEntity kind).fieldsViolations isPartial record = [] ↔ Buildable kind given isPartial := by
  have hreadable := readFields_spec given (ofEntity kind).fields
  rw [hread] at hreadable
  have hclosed := extraneous_eq_nil_iff.1 (extraneous_of_readFields hread)
  have hcomplete : (isPartial = false → (ofEntity kind).Complete record) ↔
      (isPartial = true ∨ (givenText given "title").isSome ∧
        (kind ≠ .program → (givenText given "parentId").isSome)) := by
    have hall : (ofEntity kind).Complete record ↔
        ∀ name ∈ (ofEntity kind).required, (givenText given name).isSome :=
      forall₂_congr fun name hname =>
        value?_isSome_iff_givenText hread (exists_of_mem_required hname)
    rw [hall]
    cases isPartial <;> simp [mem_required_iff, or_imp, forall_and]
  rw [fieldsViolations_eq_nil_iff, fieldwise_iff_inRange hread, hcomplete]
  exact ⟨fun ⟨hrange, _, hwhole⟩ => ⟨hreadable.1, hrange, hwhole⟩,
    fun h => ⟨h.inRange, hclosed, h.complete⟩⟩

end

/-! ## Building -/

/-- What building gives, and how it fails. -/
lemma build_spec (kind : Entity) (given : String → Option String) (isPartial : Bool) :
    match (ofEntity kind).build given isPartial with
    | .ok record => Buildable kind given isPartial ∧ Holds given (ofEntity kind).fields record ∧
        (ofEntity kind).fieldsViolations isPartial record = []
    | .error e => ¬ Buildable kind given isPartial ∧ Refuses (ofEntity kind) given isPartial e := by
  have hspec := readFields_spec given (ofEntity kind).fields
  rw [build]
  cases hread : readFields given (ofEntity kind).fields with
  | error e =>
    -- Nothing is checked then: a problem with a text hides what the check would find.
    rw [hread] at hspec
    obtain ⟨f, hf, raw, problem, hraw, hproblem, rfl⟩ := hspec
    refine ⟨fun h => ?_, .problem hf hraw hproblem⟩
    exact nomatch (h.readable f hf raw hraw).symm.trans hproblem
  | ok record =>
    rw [hread] at hspec
    simp only [bind, Except.bind]
    cases hreported : Violation.reported? ((ofEntity kind).fieldsViolations isPartial record) with
    | none =>
      have hnone := reported?_eq_none_iff.1 hreported
      exact ⟨(fieldsViolations_eq_nil_iff_buildable hread).1 hnone, hspec.2, hnone⟩
    | some v =>
      refine ⟨fun h => ?_, refuses_of_mem_fieldsViolations hread (mem_of_reported? hreported)⟩
      rw [(fieldsViolations_eq_nil_iff_buildable hread).2 h] at hreported
      exact nomatch hreported

/-- From a text for one field, that field is built, if anything is. -/
lemma build_eq_singleton {raw : String} {value : Value}
    (hok : ((ofEntity kind).build given isPartial).toOption.isSome = true)
    (hgiven : ((ofEntity kind).fields.filter fun f => (givenText given f.name).isSome) = [f])
    (hraw : givenText given f.name = some raw) (hvalue : f.convert raw = .ok value) :
    (ofEntity kind).build given isPartial = .ok [(f.name, value)] := by
  have hspec := build_spec kind given isPartial
  cases hbuild : (ofEntity kind).build given isPartial with
  | error e =>
    rw [hbuild] at hok
    exact nomatch hok
  | ok record =>
    rw [hbuild] at hspec
    have hholds := hspec.2.1
    rw [Holds, hgiven] at hholds
    obtain ⟨⟨key, built⟩, rest, ⟨hkey, raw', hraw', hbuilt⟩, hrest, rfl⟩ :=
      List.forall₂_cons_left_iff.1 hholds
    dsimp only at hkey hbuilt
    rw [hkey, List.forall₂_nil_left_iff.1 hrest]
    obtain rfl := Option.some.inj (hraw.symm.trans hraw')
    rw [Except.ok.inj (hbuilt.symm.trans hvalue)]

/-- **When records can be built.** For every kind, all texts, and whole records as well as parts,
building succeeds just if the texts make a record. What is built holds the values of the texts that
are given and nothing else, and passes the check, which does what the JSON Schema says. Building
fails with a problem of a text, a progress out of range or something that is missing, and with
nothing else. No text but those for the fields makes any difference. -/
theorem build_outcome (kind : Entity) (given : String → Option String) (isPartial : Bool) :
    ((∃ record, (ofEntity kind).build given isPartial = .ok record) ↔
      Buildable kind given isPartial) ∧
    (∀ record, (ofEntity kind).build given isPartial = .ok record →
      Holds given (ofEntity kind).fields record ∧
      (ofEntity kind).violation? isPartial (.ofFields record) = none ∧
      Accepts ((ofEntity kind).document isPartial) (.ofFields record)) ∧
    (∀ error, (ofEntity kind).build given isPartial = .error error →
      Refuses (ofEntity kind) given isPartial error) ∧
    (∀ others, (∀ f ∈ (ofEntity kind).fields, givenText others f.name = givenText given f.name) →
      (ofEntity kind).build others isPartial = (ofEntity kind).build given isPartial) := by
  have hspec := build_spec kind given isPartial
  refine ⟨?_, fun record hbuild => ?_, fun error hbuild => ?_, fun others h => ?_⟩
  · cases hbuild : (ofEntity kind).build given isPartial with
    | ok record =>
      rw [hbuild] at hspec
      exact ⟨fun _ => hspec.1, fun _ => ⟨record, rfl⟩⟩
    | error e =>
      rw [hbuild] at hspec
      exact ⟨fun ⟨_, h⟩ => (nomatch h), fun h => absurd h hspec.1⟩
  · rw [hbuild] at hspec
    obtain ⟨-, hholds, hnone⟩ := hspec
    refine ⟨hholds, ?_, fieldsViolations_eq_nil_iff_accepts.1 hnone⟩
    rw [violation?, Value.ofFields, violations, Record.fieldsOf_ofFields, hnone]
    rfl
  · rw [hbuild] at hspec
    exact hspec.2
  · rw [build, build, readFields_congr h]

/-- Texts for a project, some of them odd, and one that is for no field. -/
def website : Entries String :=
  [("title", "Website"), ("parentId", "P1"), ("priority", "HIGH"), ("tags", " , web"),
    ("progress", "1_0"), ("notes", ""), ("colour", "red")]

/-- The website is built, with each text read as its field says. -/
theorem build_outcome_website :
    Buildable .project website.value? false ∧
      (((ofEntity .project).build website.value?).toOption.map fun record =>
        record.map fun (key, value) => (key, value.literal)) =
      some [("title", "'Website'"), ("parentId", "'P1'"), ("priority", "'high'"),
        ("tags", "['web']"), ("progress", "10.0")] := by
  have hshown : (((ofEntity .project).build website.value?).toOption.map fun record =>
      record.map fun (key, value) => (key, value.literal)) =
      some [("title", "'Website'"), ("parentId", "'P1'"), ("priority", "'high'"),
        ("tags", "['web']"), ("progress", "10.0")] := by
    decide +kernel
  refine ⟨(build_outcome .project website.value? false).1.1 ?_, hshown⟩
  cases hbuild : (ofEntity .project).build website.value? with
  | ok record => exact ⟨record, rfl⟩
  | error e =>
    rw [hbuild] at hshown
    exact nomatch hshown

end Schema

end TaskShell
