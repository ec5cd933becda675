import TaskShell.Proofs.Shell.Reading

/-!
# Commands that change the store

An operation that changes the store either fails and leaves the records alone, or it makes one
change, which the journal keeps at once; the report of the change and the refresh notice come
after it. What commands do around such an operation is quiet, so that each command does at most
the one deed that its operation stands for.

## Main definitions

* `Shell.Completes` — an action that completes a deed once the records have changed.
* `Removal.IsOf`, `Removal.Fits` — the record of a removal, and what holds while it waits.
* `Removal.Begins` — how a command begins a removal.

## Main results

* `Shell.does_changeStore`, `Shell.completes_notify` — a change of the store, and its report.
* `Shell.does_update` — updates.
* `Removal.does_carryOut`, `Removal.does_resume`, `Shell.does_remove` — removals.
-/

set_option autoImplicit false

namespace TaskShell

namespace Shell

variable {α β : Type} {w : World}

/-! ## A change and its report -/

/-- The rest of a sequence that begins with lines. -/
@[simp] lemma perform_sayAll_bind (lines : List String) (rest : Unit → Shell β) (w : World) :
    (sayAll lines >>= rest).perform w =
      (rest ()).perform { w with journal := w.journal ++ lines.map .line } :=
  perform_bind_of_ok (perform_note _ _)

/-- The rest of a sequence that begins with a line. -/
@[simp] lemma perform_say_bind (line : String) (rest : Unit → Shell β) (w : World) :
    (say line >>= rest).perform w =
      (rest ()).perform { w with journal := w.journal ++ [.line line] } :=
  perform_bind_of_ok (perform_note _ _)

/-- A report, up to its refresh notice. -/
lemma perform_report (line : String) (details : List String) (w : World) :
    perform (do say line; sayAll details; notify) w =
      notify.perform { w with journal := w.journal ++ .line line :: details.map .line } := by
  rw [perform_say_bind, perform_sayAll_bind, List.append_assoc]
  rfl

/-- A refusal is the only failure of heeding one, and the journal keeps it. -/
lemma perform_heed (fault : Option String) (w : World) :
    ∃ outcome, (heed fault).perform w = (outcome, { w with
      journal := w.journal ++ (failureOf outcome).toList.map .failure }) := by
  cases fault with
  | none => exact ⟨.ok (), by simp [heed, failureOf]⟩
  | some message => exact ⟨.error (.refused message), rfl⟩

/-- A refresh notice is counted and kept in the journal before it can fail. -/
lemma perform_notify (w : World) :
    ∃ outcome, notify.perform w = (outcome, { w with
      calls := w.calls + 1, refreshes := w.refreshes + 1,
      journal := w.journal ++ .refresh :: (failureOf outcome).toList.map .failure }) := by
  unfold notify
  rw [perform_bind_of_ok (perform_call w), perform_bind_of_ok (perform_modify _ _),
    perform_bind_of_ok (perform_note _ _)]
  obtain ⟨outcome, houtcome⟩ := perform_heed (w.faults w.calls).refresh { w with
    calls := w.calls + 1, refreshes := w.refreshes + 1, journal := w.journal ++ [.refresh] }
  exact ⟨outcome, by rw [houtcome, List.append_assoc]; rfl⟩

/-- A failure that leaves the records alone. -/
lemma course_failure {s : Store} (h : s.records = w.store.records) (e : Failure) :
    Course w .nothing (some e) { w with store := s, journal := w.journal ++ [.failure e] } :=
  ⟨trivial, h, ⟨_, rfl⟩, rfl, rfl, [], by simp, by simp [Deed.occurrences, Deed.report?]⟩

/-- An operation on the store fails, or the store is changed and the journal keeps the change. -/
lemma changeStore_cases {operation : Store → Except Store.Error α × Store} {P : α → Store → Prop}
    (refusal : Option String) (hends : w.store.Ends P (operation w.store)) :
    (∃ e w', (changeStore refusal operation).perform w = (.error e, w') ∧
        Course w .nothing (some e) w') ∨
      ∃ a s, P a s ∧ (changeStore refusal operation).perform w =
        (.ok a, { w with store := s, journal := w.journal ++ [.change] }) := by
  unfold changeStore
  rw [perform_bind_of_ok (perform_get w)]
  rcases hoperation : operation w.store with ⟨e | a, s⟩
  · rw [hoperation] at hends
    dsimp only
    have hs : (if refusal.isSome then { s with records := w.store.records } else s).records =
        w.store.records := by
      split
      · rfl
      · exact hends
    rw [perform_bind_of_ok (perform_set _ _)]
    refine .inl ?_
    split
    · cases refusal with
      | none => exact ⟨_, _, rfl, course_failure hs _⟩
      | some message => exact ⟨_, _, rfl, course_failure hs _⟩
    · exact ⟨_, _, rfl, course_failure hs _⟩
  · rw [hoperation] at hends
    dsimp only
    rw [perform_bind_of_ok (perform_set _ _)]
    cases refusal with
    | none => exact .inr ⟨a, s, hends, rfl⟩
    | some message =>
      refine .inl ⟨_, _, rfl, course_failure ?_ _⟩
      rfl

/-- An action on a second world completes a deed on the first, of which, with the outcome, something
is known. -/
def Completes (w w' : World) (action : Shell α) (R : Deed → Except Failure α → Prop) : Prop :=
  ∃ deed, Course w deed (failureOf (action.perform w').1) (action.perform w').2 ∧
    R deed (action.perform w').1

/-- A sequence that begins with an operation that changes the store does the deed that the rest of
the sequence completes after the change, or nothing. -/
lemma does_changeStore {refusal : Option String} {P : α → Store → Prop}
    {operation : Store → Except Store.Error α × Store} {rest : α → Shell β}
    {R : Deed → Except Failure β → Prop} (hends : w.store.Ends P (operation w.store))
    (hchange : ∀ a s, P a s →
      Completes w { w with store := s, journal := w.journal ++ [.change] } (rest a) R)
    (herror : ∀ e, R .nothing (.error e)) :
    Does w (changeStore refusal operation >>= rest) R := by
  rcases changeStore_cases refusal hends with ⟨e, w', hrun, hcourse⟩ | ⟨a, s, hP, hrun⟩
  · rw [Does, perform_bind_of_error hrun]
    exact ⟨.nothing, hcourse, herror e⟩
  · rw [Does, perform_bind_of_ok hrun]
    exact hchange a s hP

/-- Once the records have changed and the change has been reported, the refresh notice completes the
deed. -/
lemma completes_notify (deed : Deed) {line : String} {details : List String} {w' : World}
    {session : Session} {action : Shell Unit} {R : Deed → Except Failure Unit → Prop}
    (hrun : action.perform w' = notify.perform
      { w' with session, journal := w'.journal ++ .line line :: details.map .line })
    (hreport : deed.report? = some (line, details)) (hpossible : deed.Possible w.store.records)
    (hrecords : w'.store.records = deed.records w.store.records)
    (hsession : session = { w.session with context := deed.context w.session.context })
    (hfaults : w'.faults = w.faults) (hrefreshes : w'.refreshes = w.refreshes)
    (hjournal : w'.journal = w.journal ++ [.change]) (hR : ∀ outcome, R deed outcome) :
    Completes w w' action R := by
  obtain ⟨outcome, hnotify⟩ := perform_notify
    { w' with session, journal := w'.journal ++ .line line :: details.map .line }
  refine ⟨deed, ?_, hR _⟩
  rw [hrun, hnotify]
  refine ⟨hpossible, hrecords, ⟨w.session.lastFilter, hsession⟩, hfaults, ?_, [], by simp, ?_⟩
  · simp [Deed.notices, hreport, hrefreshes]
  · simp [Deed.occurrences, Deed.reported, hreport, hjournal]

/-- Passing over an id is quiet. -/
lemma quiet_passId : Quiet w (modify fun w => { w with store := w.store.passId }) fun _ => True := by
  refine ⟨.nothing, ⟨trivial, ?_, ⟨_, rfl⟩, rfl, rfl, [], by simp, ?_⟩, rfl, fun _ _ => trivial⟩
  · change w.store.passId.records = w.store.records
    unfold Store.passId
    split <;> rfl
  · simp [Deed.occurrences, Deed.report?, failureOf]

/-- A sequence that begins with the creation of a record does the deed that the rest of it completes
once the record is there, or nothing. -/
lemma does_createRecord {kind : Entity} {data : Fields} {rest : String → Shell β}
    {R : Deed → Except Failure β → Prop}
    (hchange : ∀ w₁ r s, s.records = w₁.store.records ++ [r] →
      (∀ q ∈ w₁.store.records, Store.sameId q.id r.id = false) → r.IsNew kind data →
      Completes w₁ { w₁ with store := s, journal := w₁.journal ++ [.change] } (rest r.id) R)
    (herror : ∀ e, R .nothing (.error e)) : Does w (createRecord kind data >>= rest) R := by
  have hstore : ∀ w₁ refusal,
      Does w₁ (changeStore refusal (fun s => s.create kind data) >>= rest) R := by
    intro w₁ refusal
    refine does_changeStore (w₁.store.create_ends kind data) ?_ herror
    rintro _ s ⟨r, rfl, hs, hfree, hr, -⟩
    exact hchange w₁ r s hs hfree hr
  simp only [createRecord, bind_assoc]
  refine quiet_call.bind_does (fun faults w₁ _ _ => ?_) herror
  refine (quiet_heed _).bind_does (fun _ w₂ _ _ => ?_) herror
  split
  · rw [bind_assoc]
    refine quiet_passId.bind_does (fun _ w₃ _ _ => ?_) herror
    rw [bind_assoc]
    exact (quiet_heed _).bind_does (fun _ w₄ _ _ => hstore w₄ _) herror
  · rw [bind_assoc]
    exact (quiet_heed _).bind_does (fun _ w₃ _ _ => hstore w₃ _) herror

/-! ## Updates -/

/-- A sequence that begins with the update of a record that is there does the deed that the rest of
it completes once the record is replaced, or nothing. -/
lemma does_updateRecord {α : Type} {former : Record} {changes : Fields} {rest : Unit → Shell α}
    {R : Deed → Except Failure α → Prop}
    (hfound : w.store.find? former.kind (some former.id) = some former)
    (hchange : ∀ w₁ r s, Near w w₁ → s.records = Store.replaced w₁.store.records r →
      r.IsMerged former changes →
      Completes w₁ { w₁ with store := s, journal := w₁.journal ++ [.change] } (rest ()) R)
    (herror : ∀ e, R .nothing (.error e)) :
    Does w (updateRecord former.kind (some former.id) changes >>= rest) R := by
  simp only [updateRecord, bind_assoc]
  refine (quiet_callUnless _).bind_does (fun faults w₁ _ hnear => ?_) herror
  rw [← find?_congr hnear.records] at hfound
  refine does_changeStore (w₁.store.update_ends former.kind (some former.id) changes) ?_ herror
  rintro _ s ⟨f, r, hf, hs, hr, -⟩
  obtain rfl := Option.some.inj (hfound.symm.trans hf)
  exact hchange w₁ r s hnear hs hr

/-- `update` replaces fields of the record that it names, or does nothing. -/
theorem does_update (c : Command) : Does w (update c) fun deed _ => c.Orders .update w deed := by
  unfold update
  refine (quiet_requireEntity c _).bind_does ?_ fun _ => trivial
  rintro (_ | entity) w₁ hentity hnear₁
  · exact (quiet_pure trivial).does (P := fun _ => True) fun _ => trivial
  refine (quiet_schema entity).bind_does ?_ fun _ => trivial
  rintro _ w₂ ⟨kind, rfl, rfl⟩ hnear₂
  have hgiven : c.entity = some kind.name := (Option.filter_eq_some_iff.1 hentity.symm).1
  refine (quiet_warnUnknown _ _).bind_does ?_ fun _ => trivial
  rintro - w₃ - hnear₃
  simp only [pure_bind]
  split
  · exact Quiet.does (P := fun _ => True) ((quiet_say (by decide)).bind fun _ _ _ _ =>
      quiet_say (by decide)) fun _ => trivial
  refine (quiet_repository kind.name).bind_does ?_ fun _ => trivial
  intro kind' w₄ hkind hnear₄
  obtain rfl : kind' = kind := Entity.name_injective hkind
  refine (quiet_findRecord kind' c.recordId?).bind_does ?_ fun _ => trivial
  rintro (_ | fields) w₅ hfound hnear₅
  · exact (quiet_sayNotFound _ _).does fun _ => trivial
  obtain ⟨former, hformer, rfl⟩ := exists_of_find?_map hfound
  obtain ⟨hmem, rfl, id, hid, -⟩ := Store.find?_eq_some hformer
  have hnear := (((hnear₁.trans hnear₂).trans hnear₃).trans hnear₄)
  have hnames : c.Names w.store.records former := by
    rw [hid, find?_congr hnear.records] at hformer
    exact ⟨hgiven, id, hid, hformer⟩
  dsimp only [idOf_fields]
  split
  · next changes hbuild =>
    refine does_updateRecord (R := fun deed _ => c.Orders .update w deed) ?_ ?_ fun _ => trivial
    · rw [find?_congr hnear₅.records]
      exact Store.find?_own_id hformer
    · intro w₆ r s hnear₆ hs hr
      refine completes_notify (.updated changes former r) (perform_report _ _ _) ?_ ?_ hs rfl rfl rfl
        rfl fun _ => ⟨rfl, hnames⟩
      · simp only [Deed.report?]
        rw [hr.kind_eq, hr.id_eq]
      · refine ⟨?_, hr, (Schema.ofEntity former.kind).collect c.flags, ?_⟩
        · rw [hnear₆.records, hnear₅.records]
          exact hmem
        · rw [hr.kind_eq]
          exact hbuild
  · exact (quiet_fail (P := fun _ => False) _).bind_does (fun _ _ hf _ => hf.elim) fun _ => trivial

/-! ## Removals -/

/-- A sequence that begins with the deletion of a record that is there does the deed that the rest of
it completes once the record is gone, or nothing. -/
lemma does_deleteRecord {α : Type} {r : Record} {rest : Unit → Shell α}
    {R : Deed → Except Failure α → Prop}
    (hfound : w.store.find? r.kind (some r.id) = some r)
    (hchange : ∀ w₁ s, Near w w₁ → s.records = Store.erased w₁.store.records r →
      Completes w₁ { w₁ with store := s, journal := w₁.journal ++ [.change] } (rest ()) R)
    (herror : ∀ e, R .nothing (.error e)) :
    Does w (deleteRecord r.kind (some r.id) >>= rest) R := by
  simp only [deleteRecord, bind_assoc]
  refine (quiet_callUnless _).bind_does (fun faults w₁ _ hnear => ?_) herror
  rw [← find?_congr hnear.records] at hfound
  refine does_changeStore (w₁.store.delete_ends r.kind (some r.id)) ?_ herror
  rintro _ s ⟨q, hq, hs⟩
  obtain rfl := Option.some.inj (hfound.symm.trans hq)
  exact hchange w₁ s hnear hs

end Shell

namespace Removal

open Shell

variable {w : World} {r : Removal} {record : Record}

/-- A removal is that of a record. -/
def IsOf (r : Removal) (record : Record) : Prop :=
  r = ⟨record.kind.name, record.fields⟩

/-- What holds of a removal while it waits: its record is there. -/
def Fits (records : List Record) (r : Removal) : Prop :=
  ∃ record, r.IsOf record ∧
    records.find? (Store.isNamed record.kind record.id) = some record

/-- Carrying out a removal removes its record, or does nothing. -/
lemma does_carryOut (hof : r.IsOf record)
    (hfound : w.store.find? record.kind (some record.id) = some record) :
    Does w r.carryOut fun deed _ => deed = .nothing ∨ deed = .removed record := by
  obtain rfl := hof
  unfold carryOut
  refine (quiet_repository record.kind.name).bind_does ?_ fun _ => .inl rfl
  intro kind w₁ hkind hnear
  obtain rfl : record.kind = kind := (Entity.name_injective hkind).symm
  dsimp only [idOf_fields]
  refine does_deleteRecord ?_ (fun w₂ s hnear₂ hs => ?_) fun _ => .inl rfl
  · rw [find?_congr hnear.records]
    exact hfound
  · have hmem : record ∈ w₂.store.records := by
      rw [hnear₂.records, hnear.records]
      exact (Store.find?_eq_some hfound).1
    have hreport : ∀ session, session = { w₂.session with
          context := (Deed.removed record).context w₂.session.context } →
        ∀ action : Shell Unit, action.perform
            { w₂ with store := s, journal := w₂.journal ++ [.change] } =
          perform (do say ("✓ Removed " ++ record.kind.name ++ ": " ++ record.id); notify)
            { w₂ with store := s, session, journal := w₂.journal ++ [.change] } →
        Completes w₂ { w₂ with store := s, journal := w₂.journal ++ [.change] } action
          fun deed _ => deed = .nothing ∨ deed = .removed record := by
      intro session hsession action hrun
      rw [perform_say_bind] at hrun
      refine completes_notify (.removed record) ?_ rfl hmem hs hsession rfl rfl rfl fun _ => .inr rfl
      exact hrun
    split
    · next level hlevel =>
      refine hreport { w₂.session with context := Deed.contextWithout w₂.session.context record } rfl
        _ ?_
      rw [perform_bind_of_ok (perform_get _)]
      unfold Deed.contextWithout
      simp only [hlevel]
      split
      · exact perform_bind_of_ok (perform_modifySession _ _)
      · rfl
    · next hlevel =>
      refine hreport w₂.session ?_ _ rfl
      simp [Deed.context, Deed.contextWithout, hlevel]

/-- Confirming a removal removes its record; any other answer does nothing. -/
theorem does_resume (hof : r.IsOf record)
    (hfound : w.store.find? record.kind (some record.id) = some record) (answer : String) :
    Does w (r.resume answer) fun deed _ => deed = .nothing ∨
      deed = .removed record ∧ ["y", "yes"].contains (Text.lower answer) := by
  unfold resume
  split
  · next hyes =>
    exact (does_carryOut hof hfound).imp fun _ _ h => h.imp_right fun hdeed => ⟨hdeed, hyes⟩
  · exact (quiet_say (by decide)).does fun _ => .inl rfl

/-- How a command can begin a removal: it names the record. -/
def Begins (r : Removal) (records : List Record) (command : Command) : Prop :=
  ∃ record, r.IsOf record ∧ command.Names records record

/-- A removal that a command begins has its record there. -/
lemma Begins.fits {records : List Record} {command : Command} (h : r.Begins records command) :
    r.Fits records := by
  obtain ⟨record, hof, -, id, -, hfound⟩ := h
  refine ⟨record, hof, ?_⟩
  rw [Store.isNamed_congr ((Store.isNamed_iff _ _ _).1 (List.find?_some hfound)).2]
  exact hfound

end Removal

namespace Shell

variable {w : World}

/-- `remove` removes the record that it names, if it is forced, or asks for confirmation. -/
theorem does_remove (c : Command) :
    Does w (remove c) fun deed outcome => c.Orders .remove w deed ∧
      ∀ q r, outcome = .ok (.asks q r) →
        deed = .nothing ∧ q = r.question ∧ r.Begins w.store.records c := by
  have hfailed : ∀ e : Failure, c.Orders .remove w .nothing ∧ ∀ q r,
      (Except.error e : Except Failure (Progress Removal)) = .ok (.asks q r) →
        Deed.nothing = .nothing ∧ q = r.question ∧ r.Begins w.store.records c :=
    fun _ => ⟨trivial, fun _ _ h => nomatch h⟩
  unfold remove
  refine (quiet_requireEntity c _).bind_does ?_ hfailed
  rintro (_ | entity) w₁ hentity hnear₁
  · exact ⟨.nothing, Course.refl _, trivial, fun _ _ h => nomatch h⟩
  have hgiven : c.entity = some entity := (Option.filter_eq_some_iff.1 hentity.symm).1
  refine (quiet_repository entity).bind_does ?_ hfailed
  rintro kind w₂ rfl hnear₂
  refine (quiet_findRecord kind c.recordId?).bind_does ?_ hfailed
  rintro (_ | fields) w₃ hfound hnear₃
  · refine (quiet_sayNotFound _ _).bind_does ?_ hfailed
    rintro - w₄ - -
    exact ⟨.nothing, Course.refl _, trivial, fun _ _ h => nomatch h⟩
  obtain ⟨record, hrecord, rfl⟩ := exists_of_find?_map hfound
  obtain ⟨-, rfl, id, hid, -⟩ := Store.find?_eq_some hrecord
  have hnames : c.Names w.store.records record := by
    rw [hid, find?_congr (hnear₁.trans hnear₂).records] at hrecord
    exact ⟨hgiven, id, hid, hrecord⟩
  dsimp only
  split
  · next hforced =>
    refine Does.map (R := fun deed _ => c.Orders .remove w deed) (fun _ => Progress.finished) ?_
      fun deed outcome h => ⟨h, fun q a hasks => ?_⟩
    · refine (Removal.does_carryOut rfl ?_).imp fun deed _ h => ?_
      · rw [find?_congr hnear₃.records]
        exact Store.find?_own_id hrecord
      · rcases h with rfl | rfl
        · trivial
        · exact ⟨rfl, hnames, hforced⟩
    · cases outcome <;> exact nomatch hasks
  · refine ⟨.nothing, Course.refl _, trivial, fun q r hasks => ?_⟩
    cases hasks
    exact ⟨rfl, rfl, record, rfl, hnames⟩

end Shell

end TaskShell
