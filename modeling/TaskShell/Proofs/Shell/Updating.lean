import TaskShell.Proofs.Command.Titles
import TaskShell.Proofs.Schema.Building
import TaskShell.Proofs.Shell.Calls
import TaskShell.Proofs.Shell.Changing
import TaskShell.Proofs.Store.Frames
import TaskShell.Proofs.Store.Run
import TaskShell.Proofs.Store.Validity
import TaskShell.Proofs.Terminal.Run

/-!
# What updates change

An `update` command replaces the fields that its flags build in the record that it is for, renews the
time of the last change, and leaves everything else as it was. It tells which fields it has replaced,
and gives one refresh notice. A command that cannot be carried out changes no record and gives no
notice. `done task` and `start task` are such updates: they replace the status of a task.

## Main definitions

* `Record.IsRevised` — a record in which fields of a former one have been replaced.
* `Command.IsFor` — the record that a command names.
* `World.CanUpdate` — no call that an update makes is refused.
* `Shell.updateReport`, `Shell.revised` — what the journal keeps of an update, and a world after it.
* `Shell.Forgoes` — an action that changes no record and gives no notice.
* `Shell.Revises` — what an update comes to.

## Main results

* `Record.IsMerged.isRevised` — what merging built fields makes of a record.
* `Shell.perform_amend`, `Shell.forgoes_amend` — updates that can be carried out, and others.
* `Shortcut.expand_progressLine`, `Command.parse_progressLine` — the shortcuts for the status of a task.
* `Shell.update_revises` — what `update`, `done` and `start` come to.
-/

set_option autoImplicit false

namespace TaskShell

/-! ## Records in which fields have been replaced -/

/-- A record in which some fields of a former one have been replaced at some time: under the keys of
the changes it has their values, and under all others what the former record has, but for the time of
the last change. -/
structure Record.IsRevised (r former : Record) (changes : Fields) (now : Instant) : Prop where
  kind_eq : r.kind = former.kind
  id_eq : r.id = former.id
  value?_eq : ∀ key, r.fields.value? key =
    if key = "updatedAt" then some (.text now.text)
    else (changes.value? key).or (former.fields.value? key)

/-- A record that is made from a former one and changes that were built has their fields replaced. -/
lemma Record.IsMerged.isRevised {r former : Record} {changes : Fields} {kind : Entity}
    {given : String → Option String} {now : Instant} (h : r.IsMerged former changes)
    (hformer : former.IsApart) (hbuild : (Schema.ofEntity kind).build given true = .ok changes)
    (hnow : r.updatedAt = now) : r.IsRevised former changes now := by
  have hconforms := Schema.conforms_of_build hbuild
  have hstamp : ∀ key ∈ stamps, changes.value? key = none := fun key => value?_stamp hconforms
  obtain ⟨htitle, hparent⟩ := h.columns_eq hconforms
  refine ⟨h.kind_eq, h.id_eq, fun key => ?_⟩
  rw [Record.value?_fields (h.isApart hformer), Record.value?_fields hformer,
    h.value?_extra (keepable_of_build hbuild .standard).isJson, htitle, hparent, h.id_eq,
    h.createdAt_eq, hnow]
  -- what the store gives is not among the changes, and so comes from the record itself
  by_cases hid : key = "id"
  · simp [hid, hstamp "id" (by decide)]
  by_cases hcreated : key = "createdAt"
  · simp [hcreated, hstamp "createdAt" (by decide)]
  by_cases hupdated : key = "updatedAt"
  · simp [hupdated]
  simp only [if_neg hid, if_neg hcreated, if_neg hupdated]
  split
  · next hkey => rw [hkey]
  · next htitle =>
    split
    · next hkey => rw [hkey]
    · next hparent =>
      have hown : key ∉ Record.ownFields := by
        simp [Record.ownFields, hid, htitle, hparent, hcreated, hupdated]
      rw [if_neg hown]

namespace Store

variable {s : Store} {kind : Entity} {former : Record} {changes : Fields} {now : Instant}
  {given : String → Option String}

/-- An update of a record that is there by changes that were built succeeds, if the clock can be
read. -/
lemma Intact.exists_update (h : s.Intact)
    (hfound : s.find? former.kind (some former.id) = some former)
    (hbuild : (Schema.ofEntity kind).build given true = .ok changes)
    (hclock : s.clock.read? = some now) :
    ∃ r : Record, r.IsRevised former changes now ∧ s.update former.kind (some former.id) changes =
      (.ok (), { s with records := replaced s.records r, clock := s.clock.advance }) := by
  have hends := s.updates former.kind (some former.id) changes
  generalize s.update former.kind (some former.id) changes = result at hends ⊢
  cases hends with
  | missing hnone => exact nomatch hfound.symm.trans hnone
  | unwritable hfound' hfault =>
    obtain rfl := Option.some.inj (hfound.symm.trans hfound')
    have hformer := (find?_eq_some hfound).1
    exact nomatch (h.fault?_merged hformer (Record.keepable_of_build hbuild s.room)).symm.trans hfault
  | undated _ hunread => exact nomatch hclock.symm.trans hunread
  | unfit _ _ _ hunfit =>
    have hpatch := Record.isPatch_of_conforms (Schema.conforms_of_build hbuild)
    obtain ⟨title, parentId, hfit, -⟩ := exists_mergedColumns hpatch _
    exact nomatch hunfit.symm.trans hfit
  | @merged former' r now' hfound' _ hclock' hmerged hupdated =>
    obtain rfl := Option.some.inj (hfound.symm.trans hfound')
    obtain rfl := Option.some.inj (hclock.symm.trans hclock')
    have hapart := h.apart former (find?_eq_some hfound).1
    exact ⟨r, hmerged.isRevised hapart hbuild hupdated, rfl⟩

/-- An update is refused where the clock cannot be read. -/
lemma exists_update_eq_error (h : s.clock.read? = none) (kind : Entity) (id : Option String)
    (changes : Fields) : ∃ e, s.update kind id changes = (.error e, s) := by
  have hends := s.updates kind id changes
  generalize s.update kind id changes = result at hends ⊢
  cases hends with
  | missing | unwritable | undated => exact ⟨_, rfl⟩
  | unfit _ _ hread | merged _ _ hread => exact nomatch h.symm.trans hread

/-- But for the records, an update leaves all but the clock alone. -/
lemma exists_clock_of_update (s : Store) (kind : Entity) (id : Option String) (changes : Fields) :
    ∃ clock, { (s.update kind id changes).2 with records := s.records } = { s with clock } := by
  have hends := s.updates kind id changes
  generalize s.update kind id changes = result at hends ⊢
  cases hends with
  | missing | unwritable | undated => exact ⟨s.clock, rfl⟩
  | unfit | merged => exact ⟨s.clock.advance, rfl⟩

end Store

/-! ## Commands and calls -/

/-- A command is for a record: it names its kind, and its target, or else its `id` flag, is the id of
the record, the case of basic letters aside. -/
def Command.IsFor (c : Command) (r : Record) : Prop :=
  c.entity = some r.kind.name ∧ ∃ id, c.recordId? = some id ∧ Store.sameId r.id id = true

/-- However the basic letters of its id are cased, a command is for a record of its kind. -/
lemma Command.isFor_of_foldBasic {c : Command} {r : Record} {id : String}
    (hentity : c.entity = some r.kind.name) (hid : c.recordId? = some id)
    (hsame : Text.foldBasic r.id = Text.foldBasic id) : c.IsFor r :=
  ⟨hentity, id, hid, Store.sameId_of_foldBasic hsame⟩

/-- The record that is found for a command is the one that it is for. -/
lemma Store.Distinct.find?_eq_some_iff_isFor {s : Store} (h : Distinct s.records) {c : Command}
    {kind : Entity} (hentity : c.entity = some kind.name) {r : Record} :
    s.find? kind c.recordId? = some r ↔ r ∈ s.records ∧ c.IsFor r := by
  have hkind : c.entity = some r.kind.name ↔ r.kind = kind := by
    rw [hentity, Option.some_inj]
    exact ⟨fun hname => (Entity.name_injective hname).symm, fun hsame => by rw [hsame]⟩
  unfold Command.IsFor find?
  rw [hkind]
  cases c.recordId? with
  | none => simp
  | some id => simp [h.find?_eq_some_iff, isNamed_iff]

/-- None of the calls that an update makes of the store is refused, and the clock can be read. -/
structure World.CanUpdate (w : World) : Prop where
  repository : (w.faults w.calls).repository = none
  get : World.Serves { w with calls := w.calls + 1 } Faults.get
  update : World.Serves { w with calls := w.calls + 2 } Faults.update
  writing : (w.faults (w.calls + 2)).writing = none
  clock : w.store.clock.read? ≠ none

instance (w : World) : Decidable w.CanUpdate :=
  decidable_of_iff ((w.faults w.calls).repository = none ∧
      World.Serves { w with calls := w.calls + 1 } Faults.get ∧
      World.Serves { w with calls := w.calls + 2 } Faults.update ∧
      (w.faults (w.calls + 2)).writing = none ∧ w.store.clock.read? ≠ none)
    ⟨fun ⟨hrepository, hget, hupdate, hwriting, hclock⟩ =>
      ⟨hrepository, hget, hupdate, hwriting, hclock⟩,
      fun h => ⟨h.repository, h.get, h.update, h.writing, h.clock⟩⟩

namespace Shell

variable {α β : Type} {w : World} {c : Command} {kind : Entity} {id : Option String}
  {changes : Fields} {former : Record}

/-! ### Doing without -/

/-- On a world, an action changes no record and gives no refresh notice. It can make calls, read the
clock, write lines and fail. -/
def Forgoes (w : World) (action : Shell α) : Prop :=
  ∃ outcome clock calls noted, action.perform w =
      (outcome, { w with store := { w.store with clock }, calls, journal := w.journal ++ noted }) ∧
    .change ∉ noted ∧ .refresh ∉ noted

/-- What stops forgoes. -/
lemma Stops.forgoes {action : Shell α} (h : Stops w action) : Forgoes w action := by
  obtain ⟨cause, calls, hrun⟩ := h
  exact ⟨_, w.store.clock, calls, [.failure cause], hrun, by simp, by simp⟩

/-- After calls that work, what forgoes all the rest forgoes the whole. -/
lemma Forgoes.after {action : Shell α} {rest : α → Shell β} {a : α} {calls : Nat}
    (h : Forgoes { w with calls } (rest a)) (hrun : action.perform w = (.ok a, { w with calls })) :
    Forgoes w (action >>= rest) := by
  obtain ⟨outcome, clock, calls', noted, hrest, hnoted⟩ := h
  refine ⟨outcome, clock, calls', noted, ?_, hnoted⟩
  rw [perform_bind_of_ok hrun, hrest]

/-- What comes to writing lines and to what forgoes forgoes. -/
lemma Forgoes.of_perform {action action' : Shell α} {lines : List String}
    (h : Forgoes { w with journal := w.journal ++ lines.map .line } action')
    (hrun : action.perform w =
      action'.perform { w with journal := w.journal ++ lines.map .line }) : Forgoes w action := by
  obtain ⟨outcome, clock, calls, noted, hrest, hchange, hrefresh⟩ := h
  refine ⟨outcome, clock, calls, lines.map .line ++ noted, ?_, ?_, ?_⟩
  · rw [hrun, hrest, List.append_assoc]
  · simpa using hchange
  · simpa using hrefresh

/-- Writing lines forgoes. -/
lemma forgoes_sayAll (lines : List String) : Forgoes w (sayAll lines) :=
  ⟨_, w.store.clock, w.calls, lines.map .line, perform_note _ _, by simp, by simp⟩

/-- What forgoes still does so if its answer is reworked. -/
lemma Forgoes.map {action : Shell α} (h : Forgoes w action) (f : α → β) :
    Forgoes w (do return f (← action)) := by
  obtain ⟨outcome, clock, calls, noted, hrun, hnoted⟩ := h
  refine ⟨outcome.map f, clock, calls, noted, ?_, hnoted⟩
  rw [perform_map, hrun]

/-! ### Updates of the store -/

/-- A change of the store that is refused or fails leaves it alone, but for the clock. -/
lemma exists_changeStore_eq_error (refusal : Option String)
    (operation : Store → Except Store.Error α × Store) {clock : Clock}
    (hframe : { (operation w.store).2 with records := w.store.records } = { w.store with clock })
    (h : refusal ≠ none ∨ ∃ e, operation w.store = (.error e, { w.store with clock })) :
    ∃ cause, (changeStore refusal operation).perform w = (.error cause,
      { w with store := { w.store with clock }, journal := w.journal ++ [.failure cause] }) := by
  unfold changeStore
  rw [perform_bind_of_ok (perform_get w)]
  cases refusal with
  | none =>
    obtain ⟨e, he⟩ := h.resolve_left fun hne => hne rfl
    rw [he]
    refine ⟨.store e, ?_⟩
    dsimp only
    rw [Option.isSome_none, if_neg Bool.false_ne_true, perform_bind_of_ok (perform_set _ _)]
    split <;> rfl
  | some message =>
    rcases hoperation : operation w.store with ⟨e | a, s⟩
    · rw [hoperation] at hframe
      dsimp only at hframe ⊢
      rw [Option.isSome_some, if_pos rfl, hframe, perform_bind_of_ok (perform_set _ _)]
      split
      · exact ⟨.refused message, rfl⟩
      · exact ⟨.store e, rfl⟩
    · rw [hoperation] at hframe
      dsimp only at hframe ⊢
      rw [Option.isSome_some, if_pos rfl, hframe]
      exact ⟨.refused message, rfl⟩

/-- An update of a record that is refused. -/
lemma exists_updateRecord_eq_error (h : ¬ (w.Serves Faults.update ∧
      (w.faults w.calls).writing = none ∧ w.store.clock.read? ≠ none)) :
    ∃ cause clock calls, (updateRecord kind id changes).perform w = (.error cause,
      { w with store := { w.store with clock }, calls, journal := w.journal ++ [.failure cause] }) := by
  unfold updateRecord
  by_cases hserves : w.Serves Faults.update
  · obtain ⟨clock, hframe⟩ := w.store.exists_clock_of_update kind id changes
    rw [perform_bind_of_ok (perform_callUnless hserves)]
    by_cases hwriting : (w.faults w.calls).writing = none
    · have hclock : w.store.clock.read? = none := by
        by_contra hread
        exact h ⟨hserves, hwriting, hread⟩
      obtain ⟨e, he⟩ := Store.exists_update_eq_error hclock kind id changes
      have hsame : { (w.store.update kind id changes).2 with records := w.store.records } =
          { w.store with clock := w.store.clock } := by
        rw [he]
      obtain ⟨cause, hrun⟩ := exists_changeStore_eq_error (w := { w with calls := w.calls + 1 })
        (w.faults w.calls).writing (fun s => s.update kind id changes) hsame (.inr ⟨e, he⟩)
      exact ⟨cause, w.store.clock, w.calls + 1, hrun⟩
    · obtain ⟨cause, hrun⟩ := exists_changeStore_eq_error (w := { w with calls := w.calls + 1 })
        (w.faults w.calls).writing (fun s => s.update kind id changes) hframe (.inl hwriting)
      exact ⟨cause, clock, w.calls + 1, hrun⟩
  · obtain ⟨cause, calls, hrun⟩ := stops_callUnless hserves
    exact ⟨cause, w.store.clock, calls, perform_bind_of_error hrun⟩

/-- An update of a record that is not refused. -/
lemma perform_updateRecord {s : Store} (hserves : w.Serves Faults.update)
    (hwriting : (w.faults w.calls).writing = none)
    (hupdate : w.store.update kind id changes = (.ok (), s)) :
    (updateRecord kind id changes).perform w = (.ok (),
      { w with store := s, calls := w.calls + 1, journal := w.journal ++ [.change] }) := by
  unfold updateRecord changeStore
  rw [perform_bind_of_ok (perform_callUnless hserves), hwriting, perform_bind_of_ok (perform_get _)]
  dsimp only
  rw [hupdate]
  rfl

/-! ### The command -/

/-- The lines that mention flags which name no field of a kind. -/
def warnings (kind : Entity) (flags : Entries String) : List String :=
  match (Schema.ofEntity kind).unknownFlags flags with
  | [] => []
  | unknown => ["Warning: ignoring unknown field(s): " ++ Text.join ", " unknown]

/-- Flags that name no field, mentioned. -/
lemma perform_warnUnknown (kind : Entity) (flags : Entries String) (w : World) :
    (warnUnknown (Schema.ofEntity kind) flags).perform w =
      (.ok (), { w with journal := w.journal ++ (warnings kind flags).map .line }) := by
  unfold warnUnknown warnings
  cases (Schema.ofEntity kind).unknownFlags flags with
  | nil =>
    rw [List.map_nil, List.append_nil]
    rfl
  | cons unknown rest => rfl

/-- The field values that the flags of a command give to a record of a kind. -/
abbrev collected (c : Command) (kind : Entity) : Entries String :=
  (Schema.ofEntity kind).collect c.flags

/-- What is left of an update once there is something to update. -/
def amend (c : Command) (kind : Entity) : Shell Unit := do
  let found ← repository kind.name
  match ← findRecord found c.recordId? with
  | none => sayNotFound kind.name c.recordId?
  | some record =>
    let changes ←
      match (Schema.ofEntity kind).build (collected c kind).value? true with
      | .ok changes => pure changes
      | .error e => fail (.schema e)
    updateRecord found (some (idOf record)) changes
    say ("✓ Updated " ++ kind.name ++ ": " ++ idOf record)
    sayAll (changes.map fieldLine)
    notify

/-- An update mentions unknown flags, and stops if there is nothing to update. -/
lemma perform_update (hentity : c.entity = some kind.name) (w : World) :
    (update c).perform w =
      (if (collected c kind).isEmpty then
        sayAll ["Error: Nothing to update", "Usage: " ++ updateUsage] else amend c kind).perform
          { w with journal := w.journal ++ (warnings kind c.flags).map .line } := by
  unfold update
  rw [perform_bind_of_ok (perform_requireEntity hentity updateUsage w)]
  dsimp only
  rw [perform_bind_of_ok (perform_schema kind w),
    perform_bind_of_ok (perform_warnUnknown kind c.flags w)]
  split
  · unfold say sayAll
    rw [perform_bind_of_ok (perform_note _ _), perform_note, perform_note,
      List.append_assoc (_ ++ _)]
    rfl
  · rfl

/-- What the journal keeps of an update: the change, the line that announces it, the fields that have
been replaced, and the refresh notice. -/
def updateReport (former : Record) (changes : Fields) : List Occurrence :=
  Deed.reported ("✓ Updated " ++ former.kind.name ++ ": " ++ former.id) (changes.map fieldLine)

/-- A world after an update that has left some records. The refresh notice may have failed. -/
def revised (w : World) (c : Command) (former : Record) (changes : Fields) (records : List Record)
    (failure : Option Failure) : World :=
  { w with
    store := { w.store with records, clock := w.store.clock.advance }
    calls := w.calls + 4
    refreshes := w.refreshes + 1
    journal := w.journal ++ ((warnings former.kind c.flags).map .line ++
      (updateReport former changes ++ failure.toList.map .failure)) }

/-- What is left of an update of a record that is there by changes that were built, if no call is
refused. -/
lemma perform_amend (hintact : w.store.Intact)
    (hfound : w.store.find? kind c.recordId? = some former)
    (hbuild : (Schema.ofEntity kind).build (collected c kind).value? true = .ok changes)
    (hcalls : w.CanUpdate) : ∃ r now outcome, w.store.clock.read? = some now ∧
      r.IsRevised former changes now ∧ (amend c kind).perform w =
        (outcome, { w with
          store := { w.store with
            records := Store.replaced w.store.records r, clock := w.store.clock.advance }
          calls := w.calls + 4
          refreshes := w.refreshes + 1
          journal := w.journal ++
            (updateReport former changes ++ (failureOf outcome).toList.map .failure) }) := by
  obtain ⟨now, hnow⟩ := Option.ne_none_iff_exists'.1 hcalls.clock
  obtain ⟨-, rfl, -⟩ := Store.find?_eq_some hfound
  obtain ⟨r, hrevised, hupdate⟩ :=
    hintact.exists_update (Store.find?_own_id hfound) hbuild hnow
  obtain ⟨outcome, hnotify⟩ := perform_notify
    { w with
      store := { w.store with
        records := Store.replaced w.store.records r, clock := w.store.clock.advance }
      calls := w.calls + 3
      journal := w.journal ++ [.change] ++
        .line ("✓ Updated " ++ former.kind.name ++ ": " ++ former.id) ::
          (changes.map fieldLine).map .line }
  refine ⟨r, now, outcome, hnow, hrevised, ?_⟩
  unfold amend
  rw [perform_bind_of_ok (perform_repository former.kind hcalls.repository),
    perform_bind_of_ok (perform_findRecord former.kind c.recordId? hcalls.get)]
  dsimp only
  rw [hfound, hbuild]
  dsimp only [Option.map]
  rw [pure_bind, idOf_fields,
    perform_bind_of_ok (perform_updateRecord hcalls.update hcalls.writing hupdate), perform_report,
    hnotify]
  simp [updateReport, Deed.reported]

/-- What is left of an update changes nothing if the record is not there, a value is rejected or a
call is refused. -/
lemma forgoes_amend (h : w.store.find? kind c.recordId? = none ∨
      (∃ e, (Schema.ofEntity kind).build (collected c kind).value? true = .error e) ∨
      ¬ w.CanUpdate) : Forgoes w (amend c kind) := by
  unfold amend
  -- call by call: where one refuses, the rest is not reached
  by_cases hrepository : (w.faults w.calls).repository = none
  · refine Forgoes.after ?_ (perform_repository kind hrepository)
    by_cases hget : World.Serves { w with calls := w.calls + 1 } Faults.get
    · refine Forgoes.after ?_ (perform_findRecord kind c.recordId? hget)
      cases hfound : w.store.find? kind c.recordId? with
      | none => exact forgoes_sayAll ["Error: " ++ kind.name ++ " " ++
          (Value.ofText? c.recordId?).display ++ " not found"]
      | some former =>
        dsimp only [Option.map]
        cases hbuild : (Schema.ofEntity kind).build (collected c kind).value? true with
        | error e => exact ((stops_fail _).bind _).forgoes
        | ok changes =>
          -- of the three conditions only the last is left, and so the call of the update refuses
          have hrefused : ¬ (World.Serves { w with calls := w.calls + 2 } Faults.update ∧
              (w.faults (w.calls + 2)).writing = none ∧ w.store.clock.read? ≠ none) := by
            rintro ⟨hupdate, hwriting, hclock⟩
            rw [hfound, hbuild] at h
            rcases h with hnone | ⟨e, herror⟩ | hcalls
            · exact nomatch hnone
            · exact nomatch herror
            · exact hcalls ⟨hrepository, hget, hupdate, hwriting, hclock⟩
          obtain ⟨cause, clock, calls, hrun⟩ := exists_updateRecord_eq_error hrefused
          dsimp only
          rw [pure_bind]
          exact ⟨_, clock, calls, [.failure cause], perform_bind_of_error hrun, by simp, by simp⟩
    · exact ((stops_callUnless hget).bind _ |>.bind _).forgoes
  · exact ((stops_repository kind.name hrepository).bind _).forgoes

/-- What a command comes to that updates records of a kind. If it is for a record, its flags give
values from which fields are built, and no call is refused, then the record is revised by these
fields, the other records are as before, and the fields are written in the order of the schema. If one
of these conditions fails, nothing changes. -/
structure Revises (w : World) (c : Command) (kind : Entity) (action : Shell (Progress Activity)) :
    Prop where
  replaces : ∀ former ∈ w.store.records, c.IsFor former → collected c kind ≠ [] →
    ∀ changes, (Schema.ofEntity kind).build (collected c kind).value? true = .ok changes →
      w.CanUpdate → ∃ front back r now outcome, w.store.records = front ++ former :: back ∧
        w.store.clock.read? = some now ∧ r.IsRevised former changes now ∧
        changes.keys.Sublist ((Schema.ofEntity kind).fields.map Field.name) ∧
        action.perform w =
          (outcome, revised w c former changes (front ++ r :: back) (failureOf outcome))
  forgoes : (collected c kind = [] ∨ (∀ former ∈ w.store.records, ¬ c.IsFor former) ∨
      (∃ e, (Schema.ofEntity kind).build (collected c kind).value? true = .error e) ∨
      ¬ w.CanUpdate) → Forgoes w action

/-- Reworking an answer fails as before. -/
lemma failureOf_map (outcome : Except Failure α) (f : α → β) :
    failureOf (outcome.map f) = failureOf outcome := by
  cases outcome <;> rfl

/-- An update revises. -/
lemma revises_dispatch (hintact : w.store.Intact) (hverb : c.verb = some "update")
    (hentity : c.entity = some kind.name) (line : String) :
    Revises w c kind (dispatch c line) := by
  have hdispatch : dispatch c line = do return Function.const Unit .finished (← update c) := by
    unfold dispatch
    rw [hverb]
    rfl
  have hrun := perform_update hentity w
  refine ⟨fun former hmem hfor hgiven changes hbuild hcalls => ?_, fun h => ?_⟩
  · have hfound := (hintact.distinct.find?_eq_some_iff_isFor hentity).2 ⟨hmem, hfor⟩
    obtain ⟨-, rfl, -⟩ := Store.find?_eq_some hfound
    obtain ⟨front, back, hsplit, hothers⟩ := hintact.distinct.split hmem
    obtain ⟨r, now, outcome, hnow, hrevised, hamend⟩ :=
      perform_amend
        (w := { w with journal := w.journal ++ (warnings former.kind c.flags).map .line }) hintact
        hfound hbuild ⟨hcalls.1, hcalls.2, hcalls.3, hcalls.4, hcalls.5⟩
    refine ⟨front, back, r, now, outcome.map (Function.const Unit .finished), hsplit, hnow, hrevised,
      Schema.keys_of_readFields (Schema.build_eq_ok hbuild).1, ?_⟩
    rw [if_neg (by simpa using hgiven), hamend] at hrun
    rw [hdispatch, perform_map, hrun, hsplit]
    dsimp only
    rw [Store.replaced_split hrevised.kind_eq hrevised.id_eq hothers, List.append_assoc,
      failureOf_map]
    rfl
  · rw [hdispatch]
    refine Forgoes.map ?_ _
    refine Forgoes.of_perform ?_ hrun
    split
    · exact forgoes_sayAll _
    · next hgiven =>
      rcases h with hnone | hmissing | hrejected | hrefused
      · exact absurd (List.isEmpty_iff.2 hnone) hgiven
      · refine forgoes_amend (.inl ?_)
        rw [Option.eq_none_iff_forall_ne_some]
        intro former hfound
        obtain ⟨hmem, hfor⟩ := (hintact.distinct.find?_eq_some_iff_isFor hentity).1 hfound
        exact hmissing former hmem hfor
      · exact forgoes_amend (.inr (.inl hrejected))
      · refine forgoes_amend (.inr (.inr fun hcalls => hrefused ?_))
        exact ⟨hcalls.1, hcalls.2, hcalls.3, hcalls.4, hcalls.5⟩

end Shell

/-! ## Shortcuts for the status of a task -/

namespace Shortcut

open Command (IsBare)

/-- A line that is such a shortcut. -/
def progressLine (head id : String) : String :=
  head ++ " task " ++ id

variable {aliases : Entries String} {head status id : String}

/-- A shortcut for the status of a task is trimmed. -/
lemma trim_progressLine (hp : (head, status) ∈ progressions) (hid : IsBare id) :
    Text.trim (progressLine head id) = progressLine head id := by
  have hhead : IsBare head := words_isBare.2.1 _ hp
  have htask : IsBare "task" := by decide
  have hwords : (progressLine head id).toList =
      Token.spellApart [.plain head.toList] [[.plain "task".toList], [.plain id.toList]] := by
    simp [progressLine, Token.spellApart, Token.Word.spelling, Token.Segment.spelling]
  have hcomplete : ∀ v ∈ [[Token.Segment.plain "task".toList], [.plain id.toList]],
      Token.Word.Complete v :=
    List.forall_mem_cons.2 ⟨htask.complete, List.forall_mem_singleton.2 hid.complete⟩
  exact Command.trim_of_spellApart hhead.complete hcomplete hwords

/-- What a shortcut for the status of a task stands for. -/
lemma expand_progressLine (hp : (head, status) ∈ progressions) (hid : IsBare id)
    (halias : Unaliased aliases (progressLine head id)) :
    expand aliases (progressLine head id) = statusLine id status := by
  have hheads : ∀ p ∈ progressions, Reads p.1.toList p.1 := by decide
  have htask : Reads "task".toList "task" := by decide
  have hline : (Typing.spaced (hheads _ hp) htask).line id = progressLine head id := by
    simp [Typing.spaced, Typing.line, progressLine, ← String.append_assoc]
  have hstands := (Typing.spaced (hheads _ hp) htask).stands_progress hp (by decide) hid
  rw [hline] at hstands
  exact hstands.expand_eq (by rwa [trim_progressLine hp hid])

end Shortcut

namespace Command

open Shortcut (progressions progressLine statusLine)

variable {head status id : String}

/-- A shortcut for the status of a task spells the command that sets it. -/
lemma parse_progressLine {aliases : Entries String} (hp : (head, status) ∈ progressions)
    (hid : IsBare id) (halias : Shortcut.Unaliased aliases (progressLine head id)) :
    parse aliases (progressLine head id) = settingStatus id status := by
  rw [parse, Shortcut.expand_progressLine hp hid halias, normalize_ofLine_statusLine hp hid]

/-- A command that sets the status of a task breaks no rule. -/
lemma problem?_settingStatus (hp : (head, status) ∈ progressions) (hid : IsBare id) :
    (settingStatus id status).problem? = none := by
  have hgiven : given (some id) = true := by
    have hne : id ≠ "" := fun hempty => hid.ne_nil (by rw [hempty]; rfl)
    simpa [given] using hne
  have hchoice : ∀ p ∈ progressions, Choice.rejection? "status" p.2 Choice.statuses = none ∧
      nonEmpty? (some p.2) = some p.2 := by
    decide +kernel
  obtain ⟨haccepted, hfilled⟩ := hchoice _ hp
  have hentity : (settingStatus id status).entity = some Entity.task.name := rfl
  refine problem?_of_known rfl (by decide) hentity ?_ rfl ?_
  · unfold targetProblem? settingStatus
    dsimp only
    rw [hgiven]
    rfl
  · have hvalue : (settingStatus id status).flagValue? "status" = some status := hfilled
    unfold choiceProblem?
    rw [hvalue]
    exact congrArg (Option.map Problem.choice) haccepted

end Command

namespace Shell

open Command (IsBare settingStatus)
open Shortcut (progressions progressLine)

/-- A shortcut for the status of a task runs the command that sets it. -/
lemma perform_progressLine {w : World} {aliases : Entries String} {head status id : String}
    (hp : (head, status) ∈ progressions) (hid : IsBare id)
    (halias : Shortcut.Unaliased aliases (progressLine head id)) :
    (run aliases (progressLine head id)).perform w =
      (dispatch (settingStatus id status) (progressLine head id)).perform
        { w with session := w.session.remember (progressLine head id) } := by
  have hblank : ' ' ∈ (progressLine head id).toList := by simp [progressLine]
  exact perform_run (Shortcut.trim_progressLine hp hid) hblank
    (Command.parse_progressLine hp hid halias) rfl (by decide)
    (Command.problem?_settingStatus hp hid)

/-- What the command builds is the status. -/
lemma build_settingStatus {head status id : String} (hp : (head, status) ∈ progressions) :
    (Schema.ofEntity .task).build (collected (settingStatus id status) .task).value? true =
      .ok [("status", .text status)] := by
  let f : Field :=
    { name := "status", label := "Status", kind := .choice Choice.statuses, guided := true }
  have hall : ∀ p ∈ progressions,
      let given := ((Schema.ofEntity .task).collect [("status", p.2)]).value?
      ((Schema.ofEntity .task).build given true).toOption.isSome = true ∧
        (Schema.ofEntity .task).fields.filter
          (fun g => (Schema.givenText given g.name).isSome) = [f] ∧
        Schema.givenText given f.name = some p.2 ∧ Text.lower p.2 = p.2 := by
    decide +kernel
  obtain ⟨hok, hgiven, hraw, hlower⟩ := hall _ hp
  refine Schema.build_eq_singleton (f := f) hok hgiven hraw ?_
  exact congrArg (fun s => Except.ok (Value.text s)) hlower

/-- **What updates change.** For a store after any operations:

* a command that updates records of a kind replaces the fields that its flags build in the record that
  it is for, renews the time of its last change, leaves the other records as they were, tells the
  fields in the order of the schema, and gives one refresh notice; if its flags give no values, no
  record has its id, a value is rejected or a call is refused, it leaves records and ids as they were
  and gives no notice;
* a line `done task` or `start task` with a bare id for which no alias stands is, once the session has
  remembered it, the update of the task with this id by its status and nothing else.

**Proof sketch.** Each step of an update either works or stops it before the records change
(`perform_amend`, `forgoes_amend`). Ids are distinct, so that one record is replaced; what merging
makes of it is read off its columns (`Record.IsMerged.isRevised`). A shortcut is expanded to a line
whose words are read one by one. -/
theorem update_revises (ids : IdSupply) (clock : Clock) (room : Json.Room)
    (ops : List Store.Operation) {w : World}
    (hstore : w.store = (Store.empty ids clock room).after ops) :
    (∀ (c : Command) (kind : Entity) (line : String), c.verb = some "update" →
        c.entity = some kind.name → Revises w c kind (dispatch c line)) ∧
      ∀ (aliases : Entries String) (head status id : String), (head, status) ∈ progressions →
        IsBare id → Shortcut.Unaliased aliases (progressLine head id) →
        let c := settingStatus id status
        let remembered := { w with session := w.session.remember (progressLine head id) }
        (run aliases (progressLine head id)).perform w =
            (dispatch c (progressLine head id)).perform remembered ∧
          Revises remembered c .task (dispatch c (progressLine head id)) ∧
          c.recordId? = some id ∧
          (Schema.ofEntity .task).build (collected c .task).value? true =
            .ok [("status", .text status)] := by
  have hintact : w.store.Intact := by
    rw [hstore]
    exact (Store.intact_empty ids clock room).after ops
  refine ⟨fun c kind line hverb hentity => revises_dispatch hintact hverb hentity line, ?_⟩
  intro aliases head status id hp hid halias c remembered
  have hne : id ≠ "" := fun hempty => hid.ne_nil (by rw [hempty]; rfl)
  refine ⟨perform_progressLine hp hid halias,
    revises_dispatch (w := remembered) (c := c) hintact rfl rfl (progressLine head id), ?_,
    build_settingStatus hp⟩
  change (Command.nonEmpty? (some id)).or none = some id
  rw [Command.nonEmpty?_eq_some.2 ⟨rfl, hne⟩]
  rfl

/-- `done` with an id in small letters, where there are two tasks: the status of one is replaced, its
tags stay. -/
theorem update_revises_done :
    let task (title : String) : Store.Operation :=
      .create .task [("title", .text title), ("tags", .list [.text "moon"])]
    let ops := [task "Fly", task "Land"]
    let w : World :=
      { store := (Store.empty (.ofQueue ["A1", "B2"]) {}).after ops, session := {} }
    let ran := (run [] "done task a1").perform w
    ∃ former other r, w.store.records = [former, other] ∧ ran.2.store.records = [r, other] ∧
      r.fields.value? "status" = some (.text "completed") ∧
      r.fields.value? "tags" = former.fields.value? "tags" ∧ ran.2.refreshes = 1 ∧
      ran.2.lines = ["✓ Updated task: A1", "  Status: completed"] := by
  intro task ops w ran
  have hshown : w.store.records.map (fun r => (r.kind, r.id)) = [(.task, "A1"), (.task, "B2")] := by
    decide +kernel
  obtain ⟨former, others, hrecords, hformer, hothers⟩ := List.map_eq_cons_iff.1 hshown
  obtain ⟨other, rest, rfl, hother, hnil⟩ := List.map_eq_cons_iff.1 hothers
  obtain rfl := List.map_eq_nil_iff.1 hnil
  obtain ⟨hkind, hid⟩ := Prod.mk.inj hformer
  have hstore : w.store = (Store.empty (.ofQueue ["A1", "B2"]) {}).after ops := rfl
  obtain ⟨hrun, hrevises, hnamed, hbuild⟩ :=
    (update_revises _ _ _ _ hstore).2 [] "done" "completed" "a1" (by decide) (by decide) rfl
  have hfor : (settingStatus "a1" "completed").IsFor former := by
    refine Command.isFor_of_foldBasic ?_ hnamed ?_
    · rw [hkind]
      rfl
    · rw [hid]
      decide
  have hmem : former ∈ w.store.records := by
    rw [hrecords]
    exact List.mem_cons_self
  obtain ⟨front, back, r, now, outcome, hsplit, -, hrevised, -, hran⟩ :=
    hrevises.replaces former hmem hfor (by decide) _ hbuild
      ⟨rfl, ⟨rfl, rfl⟩, ⟨rfl, rfl⟩, rfl, by decide +kernel⟩
  have hends : front = [] ∧ back = [other] := by
    rcases List.append_eq_cons_iff.1 (hsplit.symm.trans hrecords) with
      ⟨hfront, hback⟩ | ⟨_, -, hlater⟩
    · exact ⟨hfront, (List.cons.inj hback).2⟩
    · have hsame : former = other := by
        rw [← List.mem_singleton, hlater]
        exact List.mem_append_right _ List.mem_cons_self
      rw [hsame] at hid
      exact nomatch hid.symm.trans (Prod.mk.inj hother).2
  have hafter : ran = _ := hrun.trans hran
  refine ⟨former, other, r, hrecords, ?_, hrevised.value?_eq "status", hrevised.value?_eq "tags", ?_,
    by decide +kernel⟩
  · rw [hafter, hends.1, hends.2]
    rfl
  · rw [hafter]
    rfl

end Shell

end TaskShell
