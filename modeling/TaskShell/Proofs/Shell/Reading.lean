import TaskShell.Proofs.Shell.Deed
import TaskShell.Shell.Dispatch

/-!
# Commands that read

`list`, `search` and `info` do nothing to records or context, and neither does what is answered
before validation or said about a command that breaks a rule. `use` does at most one of two deeds,
both of them about the context: it points a level at a record that it has found, or empties one.

## Main results

* `Shell.quiet_list`, `Shell.quiet_search`, `Shell.quiet_info` — the commands that only read.
* `Shell.does_use` — the command that moves the context.
* `Shell.plain_of_builtin?` — what is answered before validation claims no change.
-/

set_option autoImplicit false

namespace TaskShell

/-- A level is found by its name. -/
lemma Level.ofName?_name (level : Level) : Level.ofName? level.kind.name = some level := by
  cases level <;> decide

/-! ## Plain lines -/

/-- A line is plain if it begins with a plain text that is not empty. -/
lemma Plain.append {a b : String} (h : a ≠ "") (ha : Plain a) : Plain (a ++ b) := by
  unfold Plain at *
  rw [String.toList_append]
  cases hchars : a.toList with
  | nil => exact absurd (String.toList_eq_nil_iff.1 hchars) h
  | cons c cs => simpa [hchars] using ha

/-- What begins with a word for an error is plain. -/
lemma plain_error (s : String) : Plain ("Error: " ++ s) :=
  Plain.append (by decide) (by decide)

/-- The heading of a listing is plain. -/
lemma plain_headingName (kind : Entity) (s : String) :
    Plain (Shell.headingName kind.name ++ s) := by
  cases kind <;> exact Plain.append (by decide) (by decide)

/-- The heading of a shown record is plain. -/
lemma plain_capitalize_name (kind : Entity) (s : String) :
    Plain (Text.capitalize kind.name ++ s) := by
  cases kind <;> exact Plain.append (by decide) (by decide)

/-- The first byte of a text. -/
def firstByte? (s : String) : Option UInt8 :=
  s.toByteArray.data.toList.head?

/-- A line is plain if its first byte is not that of the check mark. On a fixed text this is decided
faster than the definition. -/
lemma plain_of_firstByte? {s : String} (h : firstByte? s ≠ some 226) : Plain s := by
  intro hhead
  apply h
  obtain ⟨cs, hcs⟩ := List.head?_eq_some_iff.1 hhead
  have hs : s = String.ofList ('✓' :: cs) := by rw [← hcs, String.ofList_toList]
  have hbytes : String.utf8EncodeChar '✓' = [226, 156, 147] := by decide
  rw [hs, firstByte?, String.toByteArray_ofList, List.utf8Encode_cons]
  simp [List.utf8Encode, hbytes]

/-- What begins a guided creation is plain. -/
lemma plain_creating (s : String) : Plain ("Creating new " ++ s) :=
  Plain.append (by decide) (by decide)

/-- What is said about an unknown command is plain. -/
lemma plain_unknown (s : String) : Plain ("Unknown command: " ++ s) :=
  Plain.append (by decide) (by decide)

/-- A record in one line is plain. -/
lemma plain_line (record : Fields) : Plain record.line := by
  simp [Fields.line, Plain]

/-- A shown field is plain. -/
lemma plain_fieldLine (field : String × Value) : Plain (Shell.fieldLine field) := by
  simp [Shell.fieldLine, Plain]

/-- What is said about a text that is no value of a field is plain. -/
lemma plain_problem (problem : Field.Problem) : Plain problem.message := by
  cases problem <;> simp [Field.Problem.message, Choice.Rejection.message, Plain]

namespace Shell

variable {w : World}

/-! ## Parts of commands -/

/-- The kind that a command names, if it names one, is not empty. -/
lemma quiet_requireEntity (c : Command) (usage : String) :
    Quiet w (requireEntity c usage) fun found => found = Command.nonEmpty? c.entity := by
  unfold requireEntity
  split
  · next entity h => exact quiet_pure h.symm
  · next h =>
    refine (quiet_say (by decide)).bind fun _ _ _ _ =>
      (quiet_say ?_).bind fun _ _ _ _ => quiet_pure h.symm
    exact Plain.append (by decide) (by decide)

/-- Reading the filter of a command is quiet. -/
lemma quiet_filterOf (c : Command) : Quiet w (filterOf c) fun _ => True := by
  unfold filterOf
  split
  · exact quiet_pure trivial
  · exact quiet_fail _

/-- Selecting records is quiet, and it succeeds only for the name of a kind. -/
lemma quiet_select (entity : String) (filter : Filter) (keep : Fields → Bool) :
    Quiet w (select entity filter keep) fun _ => ∃ kind : Entity, kind.name = entity :=
  (quiet_repository entity).bind fun kind _ hkind _ =>
    (quiet_listRecords kind).bind fun _ _ _ _ => quiet_pure ⟨kind, hkind⟩

/-- Writing records under a plain heading is quiet. -/
lemma quiet_render {heading : String} (h : Plain heading) (entity : String)
    (records : List Fields) : Quiet w (render entity heading records) fun _ => True := by
  unfold render
  refine (quiet_say h).bind fun _ _ _ _ => ?_
  split
  · refine quiet_say ?_
    simp [Plain]
  · refine quiet_sayAll fun line hline => ?_
    obtain ⟨record, -, rfl⟩ := List.mem_map.1 hline
    exact plain_line record

/-- Mentioning flags that name no field is quiet. -/
lemma quiet_warnUnknown (s : Schema) (flags : Entries String) :
    Quiet w (warnUnknown s flags) fun _ => True := by
  unfold warnUnknown
  split
  · exact quiet_pure trivial
  · exact quiet_say (Plain.append (by decide) (by decide))

/-- Missing a record is quiet. -/
lemma quiet_sayNotFound (entity : String) (id : Option String) :
    Quiet w (sayNotFound entity id) fun _ => True := by
  refine quiet_say ?_
  simp [Plain]

/-! ## Listing, searching and showing -/

/-- `list` does nothing. -/
theorem quiet_list (c : Command) : Quiet w (list c) fun _ => True := by
  unfold list
  refine (quiet_requireEntity c _).bind ?_
  rintro (_ | entity) w₁ - -
  · exact quiet_pure trivial
  · refine (quiet_filterOf c).bind fun filter w₂ _ _ => (quiet_select entity filter _).bind ?_
    rintro records w₃ ⟨kind, rfl⟩ -
    refine (quiet_setFilter _).bind fun _ _ _ _ => quiet_render ?_ _ _
    simpa only [String.append_assoc] using plain_headingName kind _

/-- `search` does nothing. -/
theorem quiet_search (c : Command) : Quiet w (search c) fun _ => True := by
  unfold search
  refine (quiet_requireEntity c _).bind ?_
  rintro (_ | entity) w₁ - -
  · exact quiet_pure trivial
  · dsimp only
    split
    · exact (quiet_say (by decide)).bind fun _ _ _ _ =>
        quiet_say (Plain.append (by decide) (by decide))
    · refine (quiet_filterOf c).bind fun filter w₂ _ _ => (quiet_select entity filter _).bind ?_
      rintro records w₃ ⟨kind, rfl⟩ -
      refine (quiet_setFilter _).bind fun _ _ _ _ => quiet_render ?_ _ _
      simpa only [String.append_assoc] using plain_headingName kind _

/-- `info` does nothing. -/
theorem quiet_info (c : Command) : Quiet w (info c) fun _ => True := by
  unfold info
  refine (quiet_requireEntity c _).bind ?_
  rintro (_ | entity) w₁ - -
  · exact quiet_pure trivial
  · refine (quiet_repository entity).bind ?_
    rintro kind w₂ rfl -
    refine (quiet_findRecord kind _).bind ?_
    rintro (_ | record) w₃ - -
    · exact quiet_sayNotFound _ _
    · refine (quiet_say ?_).bind fun _ _ _ _ => (quiet_schema _).bind fun s _ _ _ =>
        quiet_sayAll fun line hline => ?_
      · simpa only [String.append_assoc] using plain_capitalize_name kind _
      · obtain ⟨field, -, rfl⟩ := List.mem_map.1 hline
        exact plain_fieldLine field

/-! ## The context -/

/-- Among the fields of a record the id is the one that it is stored under. -/
@[simp] lemma idOf_fields (r : Record) : idOf r.fields = r.id := rfl

/-- The record that the fields found under an id belong to. -/
lemma exists_of_find?_map {s : Store} {kind : Entity} {id : Option String} {fields : Fields}
    (h : some fields = (s.find? kind id).map Record.fields) :
    ∃ r, s.find? kind id = some r ∧ fields = r.fields := by
  obtain ⟨r, hr, hfields⟩ := Option.map_eq_some_iff.1 h.symm
  exact ⟨r, hr, hfields.symm⟩

/-- A level has the name of the kind that it points at. -/
lemma kind_eq_of_name_eq {level : Level} {kind : Entity} (h : kind.name = level.name) :
    kind = level.kind :=
  Entity.name_injective h

/-- The level that is found by a name has it. -/
lemma name_of_ofName? {name : String} {level : Level} (h : Level.ofName? name = some level) :
    level.name = name := by
  simpa using List.find?_some h

/-- A session changed as a deed says, and a line written, if the deed is about the context alone. -/
lemma does_move (deed : Deed) {f : Session → Session} {line : String}
    {R : Deed → Except Failure Unit → Prop} (hline : Plain line)
    (hf : f w.session = { w.session with context := deed.context w.session.context })
    (hpossible : deed.Possible w.store.records)
    (hrecords : deed.records w.store.records = w.store.records) (hreport : deed.report? = none)
    (hR : R deed (.ok ())) : Does w (modifySession f >>= fun _ => say line) R := by
  rw [Does, perform_bind_of_ok (perform_modifySession f w)]
  refine ⟨deed, ⟨hpossible, hrecords.symm, ⟨w.session.lastFilter, hf⟩, rfl, ?_, [line], ?_, ?_⟩, hR⟩
  · simp [say, Deed.notices, hreport]
  · intro l hl
    rw [List.mem_singleton.1 hl]
    exact hline
  · simp [say, Deed.occurrences, hreport, failureOf]

/-- `use` moves one level of the context, or does nothing. -/
theorem does_use (c : Command) :
    Does w (use c) fun deed _ => c.Orders .use w deed := by
  unfold use
  split
  · refine Quiet.does (P := fun _ => True) ?_ fun _ => trivial
    refine quiet_get.bind fun _ _ _ _ => (quiet_say (by decide)).bind fun _ _ _ _ =>
      quiet_sayAll fun line hline => ?_
    obtain ⟨level, -, rfl⟩ := List.mem_map.1 hline
    simp [levelLine, Plain]
  · next entity hentity =>
    have hgiven : c.entity = some entity := (Option.filter_eq_some_iff.1 hentity).1
    split
    · refine Quiet.does (P := fun _ => True) ?_ fun _ => trivial
      refine (quiet_say ?_).bind fun _ _ _ _ =>
        quiet_say (Plain.append (by decide) (by decide))
      simp [Plain]
    · next level hlevel =>
      obtain rfl : level.name = entity := name_of_ofName? hlevel
      split
      · next hid =>
        refine does_move (.emptied level) ?_ rfl trivial rfl rfl
          ⟨rfl, hgiven, hid⟩
        simp [Plain]
      · next id hid =>
        have hrecordId : c.recordId? = some id := (Option.filter_eq_some_iff.1 hid).1
        refine (quiet_repository level.name).bind_does ?_ fun _ => trivial
        intro kind w₁ hkind hnear₁
        obtain rfl := kind_eq_of_name_eq hkind
        refine (quiet_findRecord level.kind (some id)).bind_does ?_ fun _ => trivial
        rintro (_ | fields) w₂ hfound hnear₂
        · exact (quiet_sayNotFound _ _).does fun _ => trivial
        · obtain ⟨r, hr, rfl⟩ := exists_of_find?_map hfound
          rw [find?_congr hnear₁.records] at hr
          have hnear := hnear₁.trans hnear₂
          obtain ⟨hmem, hkind, -⟩ := Store.find?_eq_some hr
          refine does_move (.pointed level r) ?_ rfl ?_ rfl rfl
            ⟨rfl, by rw [hkind]; exact hgiven, id, hrecordId, by rw [hkind]; exact hr⟩
          · simp [Plain]
          · rw [hnear.records]
            exact ⟨hmem, hkind⟩

/-! ## What comes before a command is run -/

/-- A page of the manual is plain. -/
lemma plain_page (topic : String) : ∀ line ∈ Manual.page topic, Plain line := by
  unfold Manual.page
  split
  · next lines hlines =>
    have hall : ∀ page ∈ Manual.pages, ∀ line ∈ page.2, firstByte? line ≠ some 226 := by
      decide +kernel
    exact fun line hline => plain_of_firstByte? (hall _ (Entries.mem_of_value? hlines) line hline)
  · simp [Plain]

/-- What is answered before validation is plain. -/
theorem plain_of_builtin? {history lines : List String} {c : Command} {line : String}
    (h : builtin? history c line = some lines) : ∀ l ∈ lines, Plain l := by
  unfold builtin? at h
  dsimp only at h
  split at h
  · cases h
    have hall : ∀ l ∈ Manual.quickReference, firstByte? l ≠ some 226 := by decide +kernel
    exact fun l hl => plain_of_firstByte? (hall l hl)
  · split at h
    · split at h
      · cases h
        exact plain_page _
      · cases h
        have hall : ∀ l ∈ Manual.full, firstByte? l ≠ some 226 := by decide +kernel
        exact fun l hl => plain_of_firstByte? (hall l hl)
    · split at h
      · cases h
        intro l hl
        obtain ⟨entry, -, rfl⟩ := List.mem_map.1 hl
        simp [Plain]
      · split at h
        · cases h
          decide
        · exact nomatch h

/-- Telling what is wrong with a command is quiet. -/
lemma quiet_complain (problem : Command.Problem) :
    Quiet w (complain problem) fun _ => True := by
  unfold complain
  refine (quiet_say (plain_error _)).bind fun _ _ _ _ => ?_
  split
  · exact quiet_pure trivial
  · exact quiet_say (Plain.append (by decide) (by decide))

end Shell

end TaskShell
