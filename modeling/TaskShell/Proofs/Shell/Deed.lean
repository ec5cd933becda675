import TaskShell.Proofs.Shell.Action
import TaskShell.Proofs.Store.Operations
import TaskShell.Shell.Records

/-!
# What an action does

Whatever a command line or an answer comes to, it does one deed: it creates, updates or removes one
record, points or empties one level of the context, or does nothing of the kind. A deed says what
becomes of the records and of the context, and what the journal keeps of it; an action that does it
writes other lines besides, none of which claims a change of the records, and may fail.

## Main definitions

* `Announces`, `Plain` — lines that claim a change of the records, and lines that begin otherwise.
* `Deed` — what an action does, with its effect on records, context and journal.
* `Deed.Possible` — when records allow a deed.
* `Command.Orders` — the deeds that a command can do.
* `Course` — a world after an action that does a deed.
* `Shell.Does`, `Shell.Quiet` — what an action does on a world.

## Main results

* `Shell.Quiet.bind_does` — an action after a quiet one does what it does on its own.
-/

set_option autoImplicit false

namespace TaskShell

/-! ## Lines that claim a change -/

/-- The beginnings of lines that claim a change of the records. -/
def claims : List String := ["✓ Created ", "✓ Updated ", "✓ Removed "]

/-- A line claims a change of the records. -/
def Announces (line : String) : Prop :=
  ∃ claim ∈ claims, claim.toList <+: line.toList

instance (line : String) : Decidable (Announces line) :=
  inferInstanceAs (Decidable (∃ claim ∈ claims, claim.toList <+: line.toList))

/-- A line begins with another character than those that claim a change. -/
def Plain (line : String) : Prop :=
  line.toList.head? ≠ some '✓'

instance (line : String) : Decidable (Plain line) :=
  inferInstanceAs (Decidable (line.toList.head? ≠ some '✓'))

/-- A plain line claims nothing. -/
lemma Plain.not_announces {line : String} (h : Plain line) : ¬ Announces line := by
  rintro ⟨claim, hclaim, rest, hrest⟩
  apply h
  rw [← hrest]
  simp only [claims, List.mem_cons, List.not_mem_nil, or_false] at hclaim
  rcases hclaim with rfl | rfl | rfl <;> rfl

/-! ## Deeds -/

/-- What an action does to records or context. A created record is made from the fields that some
field values denote, an updated one from a former one and the changes that some denote. -/
inductive Deed
  | nothing
  | created (values : Entries String) (fields : Fields) (record : Record)
  | updated (changes : Fields) (former record : Record)
  | removed (record : Record)
  | pointed (level : Level) (record : Record)
  | emptied (level : Level)

namespace Deed

/-- The line that shows the parent of a created record, if it has one. -/
def parentLines (fields : Fields) : List String :=
  match Entries.value? fields "parentId" with
  | some parent => if parent.isGiven then ["  Parent: " ++ parent.display] else []
  | none => []

/-- The line that announces a deed, and the lines with its details. -/
def report? : Deed → Option (String × List String)
  | .created _ fields r =>
    some ("✓ Created " ++ r.kind.name ++ ": " ++ r.id,
      ("  Title: " ++ Fields.display fields "title") :: parentLines fields)
  | .updated changes _ r =>
    some ("✓ Updated " ++ r.kind.name ++ ": " ++ r.id, changes.map Shell.fieldLine)
  | .removed r => some ("✓ Removed " ++ r.kind.name ++ ": " ++ r.id, [])
  | .nothing | .pointed .. | .emptied _ => none

/-- What the journal keeps of a reported change: first the change, then the report, then the refresh
notice. -/
def reported (line : String) (details : List String) : List Occurrence :=
  [.change, .line line] ++ details.map .line ++ [.refresh]

/-- What the journal keeps of a deed. -/
def occurrences (deed : Deed) : List Occurrence :=
  match deed.report? with
  | some (line, details) => reported line details
  | none => []

/-- The number of refresh notices that a deed gives. -/
def notices (deed : Deed) : Nat :=
  if deed.report?.isSome then 1 else 0

/-- The records after a deed. -/
def records (deed : Deed) (records : List Record) : List Record :=
  match deed with
  | .created _ _ r => records ++ [r]
  | .updated _ _ r => Store.replaced records r
  | .removed r => Store.erased records r
  | .nothing | .pointed .. | .emptied _ => records

/-- The context after a record has been removed. -/
def contextWithout (context : Context) (r : Record) : Context :=
  match Level.ofName? r.kind.name with
  | some level =>
    if Text.upper ((context.get level).getD "") = Text.upper r.id then
      (context.set level none).clearDeeper level
    else context
  | none => context

/-- The context after a deed. -/
def context (deed : Deed) (context : Context) : Context :=
  match deed with
  | .removed r => contextWithout context r
  | .pointed level r => (context.set level (some r.id)).clearDeeper level
  | .emptied level => context.set level none
  | .nothing | .created .. | .updated .. => context

/-- Whether records allow a deed. A created record has an id of its own; other deeds are about a
record that is there. -/
def Possible (deed : Deed) (records : List Record) : Prop :=
  match deed with
  | .created values fields r =>
    (∀ q ∈ records, Store.sameId q.id r.id = false) ∧
      (Schema.ofEntity r.kind).build values.value? = .ok fields ∧ r.IsNew r.kind fields
  | .updated changes former r =>
    former ∈ records ∧ r.IsMerged former changes ∧
      ∃ values : Entries String, (Schema.ofEntity r.kind).build values.value? true = .ok changes
  | .removed r => r ∈ records
  | .pointed level r => r ∈ records ∧ r.kind = level.kind
  | .nothing | .emptied _ => True

end Deed

/-- The field values of a creation, with the parent that the session supplies where one is needed and
none is known. -/
def Creation.inherit (s : Session) (kind : Entity) (values : Entries String) : Entries String :=
  if (Schema.ofEntity kind).requiresParent && !values.isFilled "parentId" then
    match s.defaultParent? kind with
    | some id => values.put "parentId" id
    | none => values
  else values

/-- A command names a record by kind and id. -/
def Command.Names (c : Command) (records : List Record) (r : Record) : Prop :=
  c.entity = some r.kind.name ∧
    ∃ id, c.recordId? = some id ∧ records.find? (Store.isNamed r.kind id) = some r

/-- What a command with a verb can do to a world. -/
def Command.Orders (c : Command) (verb : Verb) (w : World) (deed : Deed) : Prop :=
  match deed with
  | .nothing => True
  | .created values _ r => verb = .create ∧ c.entity = some r.kind.name ∧
      values = Creation.inherit w.session r.kind (Shell.valuesOf (Schema.ofEntity r.kind) c)
  | .updated _ former _ => verb = .update ∧ c.Names w.store.records former
  | .removed r => verb = .remove ∧ c.Names w.store.records r ∧
      (c.flag? ["force", "yes"]).isSome
  | .pointed _ r => verb = .use ∧ c.Names w.store.records r
  | .emptied level => verb = .use ∧ c.entity = some level.name ∧
      Command.nonEmpty? c.recordId? = none

/-! ## Courses of actions -/

/-- The failure that an outcome is, if it is one. -/
def failureOf {α : Type} : Except Failure α → Option Failure
  | .ok _ => none
  | .error e => some e

/-- A world after an action that does a deed and may fail. Besides what it keeps of the deed and of
the failure, the journal has plain lines. -/
structure Course (w : World) (deed : Deed) (failure : Option Failure) (w' : World) : Prop where
  possible : deed.Possible w.store.records
  records : w'.store.records = deed.records w.store.records
  session : ∃ filter, w'.session =
    { w.session with context := deed.context w.session.context, lastFilter := filter }
  faults : w'.faults = w.faults
  refreshes : w'.refreshes = w.refreshes + deed.notices
  journal : ∃ said : List String, (∀ line ∈ said, Plain line) ∧
    w'.journal = w.journal ++
      (said.map .line ++ deed.occurrences ++ failure.toList.map .failure)

/-- A world that has the records, the context and the faults of another. -/
structure Near (w w' : World) : Prop where
  records : w'.store.records = w.store.records
  context : w'.session.context = w.session.context
  faults : w'.faults = w.faults

/-- A world is near itself. -/
lemma Near.refl (w : World) : Near w w := ⟨rfl, rfl, rfl⟩

/-- What a world is near to is near to what that is near to. -/
lemma Near.trans {w w' w'' : World} (h : Near w w') (h' : Near w' w'') : Near w w'' :=
  ⟨h'.records.trans h.records, h'.context.trans h.context, h'.faults.trans h.faults⟩

namespace Course

variable {w w' w'' : World} {deed : Deed} {failure : Option Failure}

/-- Nothing need happen. -/
lemma refl (w : World) : Course w .nothing none w :=
  ⟨trivial, rfl, ⟨_, rfl⟩, rfl, rfl, [], by simp, by simp [Deed.occurrences, Deed.report?]⟩

/-- A course without a deed leads to a world near by. -/
lemma near (h : Course w .nothing failure w') : Near w w' := by
  obtain ⟨filter, hsession⟩ := h.session
  exact ⟨h.records, by rw [hsession]; rfl, h.faults⟩

/-- A course may begin with one that does nothing. -/
lemma after (h : Course w .nothing none w') (h' : Course w' deed failure w'') :
    Course w deed failure w'' := by
  have hrecords : w'.store.records = w.store.records := h.records
  have hcontext : w'.session.context = w.session.context := h.near.context
  obtain ⟨filter, hsession⟩ := h.session
  obtain ⟨filter', hsession'⟩ := h'.session
  obtain ⟨said, hsaid, hjournal⟩ := h.journal
  obtain ⟨said', hsaid', hjournal'⟩ := h'.journal
  refine ⟨by rw [← hrecords]; exact h'.possible, by rw [h'.records, hrecords],
    ⟨filter', by rw [hsession', hcontext, hsession]⟩, h'.faults.trans h.faults,
    by rw [h'.refreshes, h.refreshes]; rfl, said ++ said', ?_, ?_⟩
  · intro line hline
    rcases List.mem_append.1 hline with hline | hline
    · exact hsaid line hline
    · exact hsaid' line hline
  · rw [hjournal', hjournal]
    simp [Deed.occurrences, Deed.report?]

end Course

/-! ## What actions do -/

namespace Shell

variable {α β : Type} {w : World}

/-- On a world, an action does a deed, of which, with the outcome, something is known. -/
def Does (w : World) (action : Shell α) (R : Deed → Except Failure α → Prop) : Prop :=
  ∃ deed, Course w deed (failureOf (action.perform w).1) (action.perform w).2 ∧
    R deed (action.perform w).1

/-- On a world, an action does nothing, and if it succeeds something is known of its answer. -/
def Quiet (w : World) (action : Shell α) (P : α → Prop) : Prop :=
  Does w action fun deed outcome => deed = .nothing ∧ ∀ a, outcome = .ok a → P a

/-- What is known of a deed may be forgotten in part. -/
lemma Does.imp {action : Shell α} {R R' : Deed → Except Failure α → Prop} (h : Does w action R)
    (himp : ∀ deed outcome, R deed outcome → R' deed outcome) : Does w action R' := by
  obtain ⟨deed, hcourse, hR⟩ := h
  exact ⟨deed, hcourse, himp _ _ hR⟩

/-- A quiet action does nothing. -/
lemma Quiet.does {action : Shell α} {P : α → Prop} {R : Deed → Except Failure α → Prop}
    (h : Quiet w action P) (hR : ∀ outcome, R .nothing outcome) : Does w action R :=
  Does.imp h fun deed outcome hP => by rw [hP.1]; exact hR outcome

/-- An action after a quiet one does what it does on its own, or nothing if the quiet one fails. -/
theorem Quiet.bind_does {action : Shell α} {rest : α → Shell β} {P : α → Prop}
    {R : Deed → Except Failure β → Prop} (h : Quiet w action P)
    (hrest : ∀ a w', P a → Near w w' → Does w' (rest a) R)
    (herror : ∀ e, R .nothing (.error e)) : Does w (action >>= rest) R := by
  obtain ⟨_, hcourse, rfl, hP⟩ := h
  rcases perform_bind_cases action rest w with ⟨a, w', hrun, hbind⟩ | ⟨e, w', hrun, hbind⟩
  · rw [hrun] at hcourse hP
    obtain ⟨deed, hcourse', hR⟩ := hrest a w' (hP a rfl) hcourse.near
    rw [Does, hbind]
    exact ⟨deed, hcourse.after hcourse', hR⟩
  · rw [hrun] at hcourse
    rw [Does, hbind]
    exact ⟨.nothing, hcourse, herror e⟩

/-- A quiet action after a quiet one is quiet. -/
lemma Quiet.bind {action : Shell α} {rest : α → Shell β} {P : α → Prop} {Q : β → Prop}
    (h : Quiet w action P) (hrest : ∀ a w', P a → Near w w' → Quiet w' (rest a) Q) :
    Quiet w (action >>= rest) Q :=
  h.bind_does hrest fun _ => ⟨rfl, fun _ hok => nomatch hok⟩

/-- The answer of an action may be reworked. -/
lemma Does.map {action : Shell α} {R : Deed → Except Failure α → Prop}
    {R' : Deed → Except Failure β → Prop} (f : α → β) (h : Does w action R)
    (himp : ∀ deed outcome, R deed outcome → R' deed (outcome.map f)) :
    Does w (action >>= fun a => pure (f a)) R' := by
  obtain ⟨deed, hcourse, hR⟩ := h
  refine ⟨deed, ?_⟩
  rcases perform_bind_cases action (fun a => pure (f a)) w with
    ⟨a, w', hrun, hbind⟩ | ⟨e, w', hrun, hbind⟩ <;>
  · rw [hrun] at hcourse hR
    rw [hbind]
    exact ⟨hcourse, himp _ _ hR⟩

/-- Of the answer of a quiet action less may be asked. -/
lemma Quiet.imp {action : Shell α} {P Q : α → Prop} (h : Quiet w action P)
    (himp : ∀ a, P a → Q a) : Quiet w action Q :=
  Does.imp h fun _ _ hP => ⟨hP.1, fun a ha => himp a (hP.2 a ha)⟩

/-! ### Basic actions -/

/-- An answer is quiet. -/
lemma quiet_pure {P : α → Prop} {a : α} (h : P a) : Quiet w (pure a) P :=
  ⟨.nothing, Course.refl w, rfl, fun b hb => by cases hb; exact h⟩

/-- Writing plain lines is quiet. -/
lemma quiet_sayAll {lines : List String} (h : ∀ line ∈ lines, Plain line) :
    Quiet w (sayAll lines) fun _ => True :=
  ⟨.nothing, ⟨trivial, rfl, ⟨_, rfl⟩, rfl, rfl, lines, h,
    by simp [sayAll, Deed.occurrences, Deed.report?, failureOf]⟩, rfl, fun _ _ => trivial⟩

/-- Writing a plain line is quiet. -/
lemma quiet_say {line : String} (h : Plain line) : Quiet w (say line) fun _ => True :=
  @quiet_sayAll w [line] fun _ hline => by rw [List.mem_singleton.1 hline]; exact h

/-- A failure is quiet. -/
lemma quiet_fail {P : α → Prop} (e : Failure) : Quiet w (fail e : Shell α) P :=
  ⟨.nothing, ⟨trivial, rfl, ⟨_, rfl⟩, rfl, rfl, [], by simp,
    by simp [Deed.occurrences, Deed.report?, failureOf]⟩, rfl, fun _ h => nomatch h⟩

/-- A refusal is quiet. -/
lemma quiet_heed (fault : Option String) : Quiet w (heed fault) fun _ => True := by
  cases fault with
  | none => exact quiet_pure trivial
  | some message => exact quiet_fail _

/-- Learning the faults of a call is quiet. -/
lemma quiet_call : Quiet w call fun _ => True :=
  ⟨.nothing, ⟨trivial, rfl, ⟨_, rfl⟩, rfl, rfl, [], by simp,
    by simp [Deed.occurrences, Deed.report?, failureOf]⟩, rfl, fun _ _ => trivial⟩

/-- Looking at the world is quiet. -/
lemma quiet_get : Quiet w (get : Shell World) fun s => w = s :=
  ⟨.nothing, Course.refl w, rfl, fun _ h => Except.ok.inj h⟩

/-- Remembering a filter is quiet. -/
lemma quiet_setFilter (filter : Option Fields) :
    Quiet w (modifySession fun s => s.setFilter filter) fun _ => True :=
  ⟨.nothing, ⟨trivial, rfl, ⟨_, rfl⟩, rfl, rfl, [], by simp,
    by simp [Deed.occurrences, Deed.report?, failureOf]⟩, rfl, fun _ _ => trivial⟩

/-! ### Looking up -/

/-- The kind that is found has the name. -/
lemma quiet_repository (name : String) : Quiet w (repository name) fun kind => kind.name = name := by
  refine quiet_call.bind fun faults w₁ _ _ => (quiet_heed _).bind fun _ w₂ _ _ => ?_
  unfold Store.kindNamed Entity.ofName?
  split
  · next kind h =>
    split at h
    · next found hfound =>
      cases h
      exact quiet_pure (by simpa using List.find?_some hfound)
    · exact nomatch h
  · exact quiet_fail _

/-- The schema that is found is that of the kind with the name. -/
lemma quiet_schema (name : String) :
    Quiet w (schema name) fun s => ∃ kind : Entity, kind.name = name ∧ s = Schema.ofEntity kind := by
  unfold schema Schema.ofName Entity.ofName?
  split
  · next s h =>
    split at h
    · next found hfound =>
      cases h
      exact quiet_pure ⟨found, by simpa using List.find?_some hfound, rfl⟩
    · exact nomatch h
  · exact quiet_fail _

/-- A call that meets no refusal is quiet, and so is one that does. -/
lemma quiet_callUnless (fault : Faults → Option String) :
    Quiet w (callUnless fault) fun _ => True :=
  quiet_call.bind fun _ _ _ _ => (quiet_heed _).bind fun _ _ _ _ =>
    (quiet_heed _).bind fun _ _ _ _ => quiet_pure trivial

/-- What a store finds depends on its records alone. -/
lemma find?_congr {s s' : Store} (h : s'.records = s.records) (kind : Entity)
    (id : Option String) : s'.find? kind id = s.find? kind id := by
  unfold Store.find?
  rw [h]

/-- The fields that are found are those of the record that the store finds. -/
lemma quiet_findRecord (kind : Entity) (id : Option String) :
    Quiet w (findRecord kind id) fun found =>
      found = (w.store.find? kind id).map Record.fields := by
  refine (quiet_callUnless _).bind fun _ w₁ _ hnear => quiet_get.bind ?_
  rintro _ w₂ rfl -
  exact quiet_pure (by rw [find?_congr hnear.records])

/-- Listing records is quiet. -/
lemma quiet_listRecords (kind : Entity) : Quiet w (listRecords kind) fun _ => True :=
  (quiet_callUnless _).bind fun _ _ _ _ => quiet_get.bind fun _ _ _ _ => quiet_pure trivial

end Shell

end TaskShell
