import TaskShell.Proofs.Schema.Retyping
import TaskShell.Proofs.Shell.Showing
import TaskShell.Proofs.Terminal.Validity

/-!
# Updates that restate what is shown

Every value of every record was read from some text, as its field says: this holds of a record that is
made from fields that were built, and an update replaces values by such values. So what is shown of a
record is read as what the record holds, and an update by the texts that are shown replaces values by
themselves. Numbers are left aside: the sign of a zero is not shown.

## Main definitions

* `Record.IsTyped` — records with values that were read.
* `Command.Restates` — commands that give fields the texts that are shown for them.
* `Shell.Retains` — an update that leaves the fields as they are.

## Main results

* `Record.heritable_isTyped` — to have values that were read is handed on.
* `Command.Restates.exists_build` — what the texts of such a command build.
* `Shell.retains_dispatch` — a command that restates what is shown leaves the fields as they are.
* `Shell.shown_typed_back` — lists and choices are typed as they are shown.
-/

set_option autoImplicit false

namespace TaskShell

/-! ## Values that were read -/

/-- The values of the fields of a schema were read, each from a text without a problem. -/
def Schema.WereRead (s : Schema) (fields : Fields) : Prop :=
  ∀ f ∈ s.fields, ∀ value, fields.value? f.name = some value →
    ∃ raw, f.problem? raw = none ∧ f.convert raw = .ok value

/-- What was built was read. -/
lemma Schema.wereRead_of_build {kind : Entity} {given : String → Option String} {isPartial : Bool}
    {fields : Fields} (h : (ofEntity kind).build given isPartial = .ok fields) :
    (ofEntity kind).WereRead fields := by
  intro f hf value hvalue
  rcases value?_cases (nodup_names kind) (build_eq_ok h).1 hf with
    ⟨-, hnone⟩ | ⟨raw, read, -, -, hproblem, hread, hfound⟩
  · exact nomatch hnone.symm.trans hvalue
  · obtain rfl := Option.some.inj (hfound.symm.trans hvalue)
    exact ⟨raw, hproblem, hread⟩

namespace Record

/-- A valid record with values that were read. -/
structure IsTyped (r : Record) : Prop where
  valid : r.Valid
  read : (Schema.ofEntity r.kind).WereRead r.payload

/-- To have values that were read is handed on. -/
theorem heritable_isTyped : Heritable IsTyped where
  made {r fields values} hbuild hnew := by
    have hconforms := Schema.conforms_of_build hbuild
    have htitle := title_of_complete (Schema.complete_of_build hbuild)
    refine ⟨hnew.valid hbuild, fun f hf value hvalue => ?_⟩
    rw [hnew.value?_payload hconforms (Schema.nodup_keys_of_build hbuild) htitle] at hvalue
    exact Schema.wereRead_of_build hbuild f hf value hvalue
  changed {r former changes values} hformer hbuild hmerged := by
    have hconforms := Schema.conforms_of_build hbuild
    refine ⟨hmerged.valid hformer.valid hbuild, fun f hf value hvalue => ?_⟩
    rw [hmerged.value?_payload hformer.valid hconforms (Schema.nodup_keys_of_build hbuild)] at hvalue
    rcases Option.or_eq_some_iff.1 hvalue with hchanged | ⟨-, hkept⟩
    · exact Schema.wereRead_of_build hbuild f hf value hchanged
    · exact hformer.read f (hmerged.kind_eq ▸ hf) value hkept

variable {r : Record} {f : Field} {value : Value}

/-- What such a record holds for a field that is no number is read from the text that shows it. -/
lemma IsTyped.retypes (h : r.IsTyped) (hf : f ∈ (Schema.ofEntity r.kind).fields)
    (hkind : f.kind ≠ .number) (hvalue : r.fields.value? f.name = some value) :
    f.Retypes value := by
  have hown : r.payload.value? f.name = r.fields.value? f.name := by
    have hstamp := stamps_notMem r.kind f hf
    rw [payload, Entries.value?_without, List.contains_eq_mem, decide_eq_false hstamp]
    rfl
  obtain ⟨raw, hproblem, hconvert⟩ := h.read f hf value (hown.trans hvalue)
  exact Field.retypes_of_convert hkind hproblem hconvert

/-- The fields that are shown of a record. -/
abbrev shownFields (r : Record) : Fields :=
  Shell.shownFields (.ofEntity r.kind) r.fields

end Record

/-! ## Commands that restate what is shown -/

open Shell (collected)

/-- A command restates what is shown of a record: it gives texts to some fields, none of them a number,
and each of these texts is the one that is shown for the field. -/
structure Command.Restates (c : Command) (r : Record) : Prop where
  given : collected c r.kind ≠ []
  shown : ∀ entry ∈ collected c r.kind, entry ∈ r.shownFields.map fun (key, value) => (key, value.shown)
  noNumber : ∀ f ∈ (Schema.ofEntity r.kind).fields, f.kind = .number →
    f.name ∉ (collected c r.kind).keys

instance (c : Command) (r : Record) : Decidable (c.Restates r) :=
  decidable_of_iff (collected c r.kind ≠ [] ∧
      (∀ entry ∈ collected c r.kind,
        entry ∈ r.shownFields.map fun (key, value) => (key, value.shown)) ∧
      ∀ f ∈ (Schema.ofEntity r.kind).fields, f.kind = .number → f.name ∉ (collected c r.kind).keys)
    ⟨fun ⟨hgiven, hshown, hnumber⟩ => ⟨hgiven, hshown, hnumber⟩,
      fun h => ⟨h.given, h.shown, h.noNumber⟩⟩

/-- A text that is read is among the texts that a command gives to fields. -/
lemma Command.mem_of_givenText {c : Command} {kind : Entity} {name raw : String}
    (h : Schema.givenText (collected c kind).value? name = some raw) :
    (name, raw) ∈ collected c kind :=
  Entries.mem_of_value? (Option.filter_eq_some_iff.1 h).1

namespace Command.Restates

variable {c : Command} {r : Record} {f : Field} {raw : String} {changes : Fields}

/-- A text that a command restates shows a value of the record, and is read as this value. -/
lemma exists_retypes (h : c.Restates r) (hr : r.IsTyped) (hf : f ∈ (Schema.ofEntity r.kind).fields)
    (hraw : (f.name, raw) ∈ collected c r.kind) :
    ∃ value, (f.name, value) ∈ r.shownFields ∧ f.Retypes value ∧ value.shown = raw := by
  obtain ⟨⟨key, value⟩, hshown, hentry⟩ := List.mem_map.1 (h.shown _ hraw)
  obtain ⟨rfl, rfl⟩ := Prod.mk.inj hentry
  have hkind : f.kind ≠ .number := fun hnumber =>
    h.noNumber f hf hnumber (List.mem_map_of_mem hraw)
  exact ⟨value, hshown, hr.retypes hf hkind (Shell.value?_of_mem_shownFields hf hshown).1, rfl⟩

/-- A part of a record can be built from texts that a command restates. -/
lemma buildable (h : c.Restates r) (hr : r.IsTyped) :
    Schema.Buildable r.kind (collected c r.kind).value? true where
  readable f hf raw hraw := by
    obtain ⟨value, -, hretypes, rfl⟩ := h.exists_retypes hr hf (mem_of_givenText hraw)
    exact hretypes.accepted
  inRange hprogress raw hraw :=
    absurd (List.mem_map_of_mem (mem_of_givenText hraw)) (h.noNumber _ hprogress rfl)
  complete := .inl rfl

section

variable (h : c.Restates r) (hr : r.IsTyped)
  (hbuild : (Schema.ofEntity r.kind).build (collected c r.kind).value? true = .ok changes)

include h hr hbuild

/-- What is built is shown: its text shows a value of the record, and is read as this value. -/
lemma shown_of_mem_build {entry : String × Value} (hentry : entry ∈ changes) :
    entry ∈ r.shownFields ∧ entry.1 ∈ (collected c r.kind).keys := by
  obtain ⟨key, value⟩ := entry
  have hread := (Schema.build_eq_ok hbuild).1
  obtain ⟨f, hf, rfl⟩ :=
    List.mem_map.1 ((Schema.keys_of_readFields hread).subset (List.mem_map_of_mem hentry))
  have hvalue := (Entries.value?_eq_some_iff (Schema.nodup_keys_of_build hbuild)).2 hentry
  rcases Schema.value?_cases (Schema.nodup_names r.kind) hread hf with
    ⟨-, hnone⟩ | ⟨raw, read, hraw, -, -, hconvert, hfound⟩
  · exact nomatch hnone.symm.trans hvalue
  · obtain ⟨shown, hshown, hretypes, rfl⟩ := h.exists_retypes hr hf (mem_of_givenText hraw)
    obtain rfl := Option.some.inj (hfound.symm.trans hvalue)
    obtain rfl := Except.ok.inj (hconvert.symm.trans hretypes.read)
    exact ⟨hshown, List.mem_map_of_mem (mem_of_givenText hraw)⟩

/-- What is shown and named by the command is built: its text is not empty, and so it is read. -/
lemma mem_build_of_shown {entry : String × Value} (hshown : entry ∈ r.shownFields)
    (hkey : entry.1 ∈ (collected c r.kind).keys) : entry ∈ changes := by
  obtain ⟨key, value⟩ := entry
  obtain ⟨hnodup, hnames⟩ := Schema.keys_collect (.ofEntity r.kind) c.flags
  obtain ⟨f, hf, rfl⟩ := List.mem_map.1 (hnames hkey)
  obtain ⟨⟨_, raw⟩, hraw, rfl⟩ := List.mem_map.1 hkey
  obtain ⟨held, hheld, hretypes, rfl⟩ := h.exists_retypes hr hf hraw
  obtain ⟨hvalue, hhidden⟩ := Shell.value?_of_mem_shownFields hf hshown
  obtain rfl : held = value :=
    Option.some.inj ((Shell.value?_of_mem_shownFields hf hheld).1.symm.trans hvalue)
  obtain ⟨read, hconvert, hfound⟩ := Schema.value?_of_build hbuild hf
    ((Entries.value?_eq_some_iff hnodup).2 hraw) (hretypes.shown_ne_empty hhidden)
  obtain rfl := Except.ok.inj (hconvert.symm.trans hretypes.read)
  exact Entries.mem_of_value? hfound

end

/-- **What restating builds.** Texts that a command restates build the fields that are shown and that
the command names, with the values that they have. -/
theorem exists_build (h : c.Restates r) (hr : r.IsTyped) :
    ∃ changes, (Schema.ofEntity r.kind).build (collected c r.kind).value? true = .ok changes ∧
      ∀ entry, entry ∈ changes ↔ entry ∈ r.shownFields ∧ entry.1 ∈ (collected c r.kind).keys := by
  have hspec := Schema.build_spec r.kind (collected c r.kind).value? true
  cases hbuild : (Schema.ofEntity r.kind).build (collected c r.kind).value? true with
  | error e =>
    rw [hbuild] at hspec
    exact absurd (h.buildable hr) hspec.1
  | ok changes =>
    exact ⟨changes, rfl, fun entry => ⟨h.shown_of_mem_build hr hbuild, fun hentry =>
      h.mem_build_of_shown hr hbuild hentry.1 hentry.2⟩⟩

end Command.Restates

/-- A command with one flag, which gives a field the text that is shown for it, restates this text. -/
lemma Record.IsTyped.restates_of_flag {c : Command} {r : Record} {f : Field} {value : Value}
    {key : String} (hr : r.IsTyped) (hf : f ∈ (Schema.ofEntity r.kind).fields)
    (hkind : f.kind ≠ .number) (hshown : (f.name, value) ∈ r.shownFields)
    (hkey : f.answers key = true) (hflags : c.flags = [(key, value.shown)]) : c.Restates r := by
  obtain ⟨hvalue, hhidden⟩ := Shell.value?_of_mem_shownFields hf hshown
  have hne : value.shown ≠ "" := (hr.retypes hf hkind hvalue).shown_ne_empty hhidden
  have hfield : (Schema.ofEntity r.kind).field? key = some f :=
    (Schema.isClear_ofEntity r.kind).field?_eq_some_iff.2 ⟨hf, Field.answers_iff.1 hkey⟩
  have hcollected : collected c r.kind = [(f.name, value.shown)] := by
    simp [collected, Schema.collect, hflags, Schema.collectFlag, hfield, hne, Entries.value?,
      Entries.put]
  refine ⟨by simp [hcollected], ?_, fun g hg hnumber hname => ?_⟩
  · rw [hcollected]
    exact List.forall_mem_singleton.2 (List.mem_map_of_mem hshown)
  · rw [hcollected] at hname
    have hsame : g = f := List.inj_on_of_nodup_map (Schema.nodup_names r.kind) hg hf
      (List.mem_singleton.1 hname)
    exact hkind (hsame ▸ hnumber)

/-! ## Updates that keep the fields -/

/-- A record in which fields have been replaced by their own values is the same but for the time of the
last change. -/
lemma Record.IsRevised.of_same {r former : Record} {changes : Fields} {now : Instant}
    (h : r.IsRevised former changes now)
    (hsame : ∀ key value, changes.value? key = some value → former.fields.value? key = some value) :
    r.IsRevised former [] now := by
  refine ⟨h.kind_eq, h.id_eq, fun key => ?_⟩
  rw [h.value?_eq key]
  cases hvalue : changes.value? key with
  | none => rfl
  | some value => simp [hsame key value hvalue, Entries.value?]

namespace Shell

/-- What an update comes to that restates what is shown of a record. If no call is refused, the record
stays as it is but for the time of the last change, the other records are as before, and what is told
are the fields that are shown and that the command names. If a call is refused, nothing changes. -/
structure Retains (w : World) (c : Command) (r : Record) (action : Shell (Progress Activity)) :
    Prop where
  keeps : w.CanUpdate → ∃ front back r' now changes outcome,
    w.store.records = front ++ r :: back ∧ w.store.clock.read? = some now ∧
      r'.IsRevised r [] now ∧
      (∀ entry, entry ∈ changes ↔ entry ∈ r.shownFields ∧ entry.1 ∈ (collected c r.kind).keys) ∧
      action.perform w =
        (outcome, revised w c r changes (front ++ r' :: back) (failureOf outcome))
  forgoes : ¬ w.CanUpdate → Forgoes w action

/-- **Restating keeps the fields.** A command that restates what is shown of a record leaves its fields
as they are. -/
theorem retains_dispatch {w : World} {c : Command} {r : Record} (hintact : w.store.Intact)
    (hmem : r ∈ w.store.records) (hr : r.IsTyped) (hverb : c.verb = some "update")
    (hfor : c.IsFor r) (h : c.Restates r) (line : String) : Retains w c r (dispatch c line) := by
  have hrevises := revises_dispatch hintact hverb hfor.1 line
  obtain ⟨changes, hbuild, hchanges⟩ := h.exists_build hr
  refine ⟨fun hcalls => ?_, fun hrefused => hrevises.forgoes (.inr (.inr (.inr hrefused)))⟩
  obtain ⟨front, back, r', now, outcome, hsplit, hnow, hrevised, hkeys, hrun⟩ :=
    hrevises.replaces r hmem hfor h.given changes hbuild hcalls
  refine ⟨front, back, r', now, changes, outcome, hsplit, hnow, ?_, hchanges, hrun⟩
  refine hrevised.of_same fun key value hvalue => ?_
  obtain ⟨f, hf, rfl⟩ := List.mem_map.1 (hkeys.subset
    (List.mem_map_of_mem (Entries.mem_of_value? hvalue)))
  exact (value?_of_mem_shownFields hf ((hchanges _).1 (Entries.mem_of_value? hvalue)).1).1

end Shell

namespace Terminal

open Shell (Retains dispatch)

/-- **Lists and choices are typed as they are shown.**

* Every text is read, for a field with a list, as a list of items: none is empty, has a comma, or begins
  or ends with a blank. The list is read from the text that shows it, and there is no problem with this
  text.
* Every text without a problem is read, for a field with a choice, as a value of which the same holds.
* From an empty store, with any ids, any clock, any session, any aliases and any faults met by any
  calls, after any commands and answers, a command that updates a record by the texts that are shown
  for some of its fields leaves the fields as they are. A command with one flag that gives a field the
  text that is shown for it is such a command.

**Proof sketch.** Cutting at commas gives back the items of a list, with a space before all but the
first, and trimming takes the spaces away; lower case stays as it is. Every value of every record was
read from a text, so that a text that is shown for it is read as this value again. -/
theorem shown_typed_back :
    (∀ (f : Field) (raw : String), f.kind = .list →
      ∃ items : List String, f.convert raw = .ok (.list (items.map .text)) ∧
        (∀ item ∈ items, Field.IsItem item) ∧ f.Retypes (.list (items.map .text))) ∧
    (∀ (f : Field) (words : List String) (raw : String), f.kind = .choice words →
      f.problem? raw = none → ∃ value, f.convert raw = .ok value ∧ f.Retypes value) ∧
    ∀ (ids : IdSupply) (clock : Clock) (room : Json.Room) (session : Session)
      (aliases : Entries String) (faults : Nat → Faults) (us : List Utterance) (w : World),
      w = ((opened (Store.empty ids clock room) session aliases faults).hearAll us).world →
      ∀ r ∈ w.store.records,
        (∀ f ∈ (Schema.ofEntity r.kind).fields, f.kind ≠ .number →
          ∀ value, (f.name, value) ∈ r.shownFields → ∀ (c : Command) (key : String),
            f.answers key = true → c.flags = [(key, value.shown)] → c.Restates r) ∧
        ∀ (c : Command) (line : String), c.verb = some "update" → c.IsFor r → c.Restates r →
          Retains w c r (dispatch c line) := by
  refine ⟨fun f raw hkind => ?_, fun f words raw hkind hproblem => ?_, ?_⟩
  · have hconvert : f.convert raw = .ok (.list ((Field.items raw).map .text)) := by
      simp only [Field.convert, hkind]
    have hproblem : f.problem? raw = none := by simp [Field.problem?, hkind]
    exact ⟨Field.items raw, hconvert, (Field.exists_convert_iff hkind).1 ⟨raw, hconvert⟩,
      Field.retypes_of_convert (by simp [hkind]) hproblem hconvert⟩
  · have hconvert : f.convert raw = .ok (.text (Text.lower raw)) := by
      simp only [Field.convert, hkind]
    exact ⟨_, hconvert, Field.retypes_of_convert (by simp [hkind]) hproblem hconvert⟩
  · rintro ids clock room session aliases faults us w rfl r hmem
    have hsound := sound_empty ids clock room session aliases faults
    have hnone : ∀ r ∈ (opened (Store.empty ids clock room) session aliases faults).world.store.records,
        r.IsTyped := List.forall_mem_nil _
    have htyped := Record.heritable_isTyped.hearAll hsound hnone us
    have hintact : Store.Intact _ :=
      ⟨(hsound.hearAll us).distinct, fun r hr => (htyped r hr).valid.apart,
        fun r hr => (htyped r hr).valid.isWritable _⟩
    exact ⟨fun f hf hkind value hshown c key hkey hflags =>
        (htyped r hmem).restates_of_flag hf hkind hshown hkey hflags,
      fun c line hverb hfor h =>
        Shell.retains_dispatch hintact hmem (htyped r hmem) hverb hfor h line⟩

/-- Tags with empty ones among them and with a wide space and a fixed one around them, and a status in
capitals: both are typed as they are shown, and a program that was created with them stays as it is. -/
theorem shown_typed_back_apollo :
    let status : Field :=
      { name := "status", label := "Status", kind := .choice Choice.statuses, guided := true }
    let us : List Utterance :=
      [.command "create program Apollo status:DUE tags:\",\u2003a\u00a0,, b c\""]
    let w := ((opened (Store.empty (.ofQueue ["A1"]) {}) {} [] fun _ => {}).hearAll us).world
    let c := Command.parse [] "update program a1 tags:\"a, b c\" status:due"
    let ran := (dispatch c "").perform w
    (∃ value, Schema.tags.convert ",\u2003a\u00a0,, b c" = .ok value ∧
      Schema.tags.Retypes value ∧ value.shown = "a, b c") ∧
    (∃ value, status.convert "DUE" = .ok value ∧ status.Retypes value ∧
      value.shown = "due") ∧
    ∃ r r', w.store.records = [r] ∧ c.Restates r ∧
      ({ flags := [("status", "due")] } : Command).Restates r ∧ ran.2.store.records = [r'] ∧
      (r.fields.value? "tags").map Value.literal = some "['a', 'b c']" ∧
      r'.fields.value? "tags" = r.fields.value? "tags" ∧
      r'.fields.value? "status" = r.fields.value? "status" ∧
      ran.2.lines = ["✓ Created program: A1", "  Title: Apollo", "✓ Updated program: A1",
        "  Status: due", "  Tags: a, b c"] := by
  intro status us w c ran
  obtain ⟨hlists, hchoices, hupdates⟩ := shown_typed_back
  refine ⟨?_, ?_, ?_⟩
  · obtain ⟨items, hconvert, -, hretypes⟩ := hlists Schema.tags ",\u2003a\u00a0,, b c" rfl
    refine ⟨_, hconvert, hretypes, ?_⟩
    rw [← Except.ok.inj hconvert]
    decide +kernel
  · obtain ⟨value, hconvert, hretypes⟩ :=
      hchoices status Choice.statuses "DUE" rfl (by decide +kernel)
    refine ⟨value, hconvert, hretypes, ?_⟩
    rw [← Except.ok.inj hconvert]
    decide +kernel
  · obtain ⟨hverb, hentity, hnamed⟩ : c.verb = some "update" ∧
        c.entity = some Entity.program.name ∧ c.recordId? = some "a1" := by
      decide +kernel
    obtain ⟨hshown, hcalls, hall⟩ : w.store.records.map (fun r =>
          (r.kind, r.id, (r.fields.value? "tags").map Value.literal)) =
            [(.program, "A1", some "['a', 'b c']")] ∧
        w.CanUpdate ∧ ∀ r ∈ w.store.records, c.Restates r := by
      decide +kernel
    obtain ⟨r, rest, hrecords, hr, hnil⟩ := List.map_eq_cons_iff.1 hshown
    obtain rfl := List.map_eq_nil_iff.1 hnil
    obtain ⟨hkind, hid, htags⟩ := Prod.mk.inj hr |>.imp_right Prod.mk.inj
    have hmem : r ∈ w.store.records := by
      rw [hrecords]
      exact List.mem_singleton_self r
    have hfor : c.IsFor r :=
      Command.isFor_of_foldBasic (by rw [hkind]; exact hentity) hnamed (by rw [hid]; decide)
    obtain ⟨honce, hkeeps⟩ :=
      hupdates (.ofQueue ["A1"]) {} .standard {} [] (fun _ => {}) us w rfl r hmem
    have hrestates : c.Restates r := hall r hmem
    have hsingle : ({ flags := [("status", "due")] } : Command).Restates r := by
      have hgiven : ("status", "due") ∈ collected c r.kind := by
        rw [hkind]
        decide +kernel
      obtain ⟨⟨_, value⟩, hvalue, hpair⟩ := List.mem_map.1 (hrestates.shown _ hgiven)
      obtain ⟨rfl, hdue⟩ := Prod.mk.inj hpair
      exact honce status (by rw [hkind]; decide) nofun value hvalue _ "status" rfl (by rw [hdue])
    obtain ⟨front, back, r', now, changes, outcome, hsplit, -, hrevised, -, hrun⟩ :=
      (hkeeps c "" hverb hfor hrestates).keeps hcalls
    have halone : front = [] ∧ back = [] := by
      have hlength := congrArg List.length (hsplit.symm.trans hrecords)
      rw [List.length_append, List.length_cons, List.length_singleton] at hlength
      exact ⟨List.eq_nil_of_length_eq_zero (by omega), List.eq_nil_of_length_eq_zero (by omega)⟩
    refine ⟨r, r', hrecords, hrestates, hsingle, ?_, htags, hrevised.value?_eq "tags",
      hrevised.value?_eq "status", by decide +kernel⟩
    rw [show ran = _ from hrun, halone.1, halone.2]
    rfl

end Terminal

end TaskShell
