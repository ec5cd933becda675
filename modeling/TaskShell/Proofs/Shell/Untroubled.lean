import TaskShell.Proofs.Command.Validated
import TaskShell.Proofs.Shell.Action
import TaskShell.Proofs.Store.Operations

/-!
# No unknown kinds of records

The store and the schemas fail on a word that names no kind of records. Commands ask them for the kind
that a validated command names, so they never meet this failure: neither do answers to the questions
that commands have left.

## Main definitions

* `Failure.IsUnknownKind` — the failures on a word that names no kind of records.
* `World.Untroubled` — a world whose journal keeps no such failure.
* `Shell.Keeps` — an action that keeps a world untroubled, and what is known of its answer.
* `Activity.Named` — an activity that knows the kind of its record by name.

## Main results

* `Shell.keeps_dispatch` — the command of a verb, if the kind that it names is one.
* `Shell.keeps_run` — a command line.
* `Shell.keeps_resume` — an answer.
-/

set_option autoImplicit false

namespace TaskShell

/-- The failures of the store and of the schemas on a word that names no kind of records. -/
def Failure.IsUnknownKind : Failure → Prop
  | .store (.unknownKind _) => True
  | .schema (.unknownEntity _) => True
  | _ => False

/-- The journal of a world keeps no failure on a word that names no kind of records. -/
def World.Untroubled (w : World) : Prop :=
  ∀ cause, .failure cause ∈ w.journal → ¬cause.IsUnknownKind

/-- A sequence of steps fails in its first step or in the rest. -/
lemma bind_eq_error {ε α β : Type} {first : Except ε α} {rest : α → Except ε β} {e : ε}
    (h : first >>= rest = .error e) :
    first = .error e ∨ ∃ a, first = .ok a ∧ rest a = .error e := by
  cases first with
  | error e' =>
    cases h
    exact .inl rfl
  | ok a => exact .inr ⟨a, rfl, h⟩

/-! ## Kinds that are known -/

namespace Store

/-- The store finds a kind of records by its name. -/
lemma kindNamed_name (kind : Entity) : kindNamed kind.name = .ok kind := by
  rw [kindNamed, kind.ofName?_name]

variable {s : Store} {kind : Entity} {id : Option String} {data : Fields} {e : Error}

/-- A value does not fit a column for what it is, never for its kind of records. -/
lemma columnText_ne_unknownKind {place : Nat} {value : Value} (h : columnText place value = .error e)
    (name : String) : e ≠ .unknownKind name := by
  unfold columnText at h
  split at h
  case h_4 n =>
    split at h <;> cases h
    exact Error.noConfusion
  all_goals cases h
  all_goals exact Error.noConfusion

/-- A title column fails for want of a title. -/
lemma titleOf_ne_unknownKind {title : Option String} (h : titleOf title = .error e)
    (name : String) : e ≠ .unknownKind name := by
  cases title with
  | some title => exact nomatch h
  | none =>
    cases h
    exact Error.noConfusion

/-- The columns of a new record fail for the values that they get. -/
lemma newColumns_ne_unknownKind (h : newColumns data = .error e) (name : String) :
    e ≠ .unknownKind name := by
  unfold newColumns at h
  rcases bind_eq_error h with hparent | ⟨parent, -, hrest⟩
  · exact columnText_ne_unknownKind hparent name
  rcases bind_eq_error hrest with htitle | ⟨title, -, hrest⟩
  · exact columnText_ne_unknownKind htitle name
  rcases bind_eq_error hrest with hgiven | ⟨_, -, hnone⟩
  · exact titleOf_ne_unknownKind hgiven name
  · exact nomatch hnone

/-- The columns of a changed record fail for the values that they get. -/
lemma mergedColumns_ne_unknownKind {r : Record} (h : mergedColumns r data = .error e)
    (name : String) : e ≠ .unknownKind name := by
  unfold mergedColumns at h
  rcases bind_eq_error h with htitle | ⟨title, -, hrest⟩
  · exact columnText_ne_unknownKind htitle name
  rcases bind_eq_error hrest with hparent | ⟨parent, -, hrest⟩
  · exact columnText_ne_unknownKind hparent name
  rcases bind_eq_error hrest with hgiven | ⟨_, -, hnone⟩
  · exact titleOf_ne_unknownKind hgiven name
  · exact nomatch hnone

/-- A creation never fails on a word for its kind. -/
lemma create_ne_unknownKind (h : (s.create kind data).1 = .error e) (name : String) :
    e ≠ .unknownKind name := by
  have hcreates := s.creates kind data
  rcases hrun : s.create kind data with ⟨outcome, s'⟩
  rw [hrun] at h hcreates
  cases hcreates with
  | untitled title => cases h; exact Error.noConfusion
  | endless taken => cases h; exact Error.noConfusion
  | undated first clock => cases h; exact Error.noConfusion
  | unwritable first clock title written => cases h; exact Error.noConfusion
  | unfit first clock columns => cases h; exact newColumns_ne_unknownKind columns name
  | stored first clock title written new id createdAt updatedAt => exact nomatch h

/-- An update never fails on a word for its kind. -/
lemma update_ne_unknownKind (h : (s.update kind id data).1 = .error e) (name : String) :
    e ≠ .unknownKind name := by
  have hupdates := s.updates kind id data
  rcases hrun : s.update kind id data with ⟨outcome, s'⟩
  rw [hrun] at h hupdates
  cases hupdates with
  | missing found => cases h; exact Error.noConfusion
  | unwritable found written => cases h; exact Error.noConfusion
  | undated found clock => cases h; exact Error.noConfusion
  | unfit found written clock columns => cases h; exact mergedColumns_ne_unknownKind columns name
  | merged found written clock merged updatedAt => exact nomatch h

/-- A deletion never fails on a word for its kind. -/
lemma delete_ne_unknownKind (h : (s.delete kind id).1 = .error e) (name : String) :
    e ≠ .unknownKind name := by
  have hdeletes := s.deletes kind id
  rcases hrun : s.delete kind id with ⟨outcome, s'⟩
  rw [hrun] at h hdeletes
  cases hdeletes with
  | missing found => cases h; exact Error.noConfusion
  | erased found => exact nomatch h

end Store

namespace Schema

/-- The schema of a kind of records is found by its name. -/
lemma ofName_name (kind : Entity) : ofName kind.name = .ok (ofEntity kind) := by
  rw [ofName, kind.ofName?_name]

variable {s : Schema} {given : String → Option String} {e : Error}

/-- The fields of a record fail for the texts that they are read from. -/
lemma readFields_ne_unknownEntity {fs : List Field} (h : readFields given fs = .error e)
    (name : String) : e ≠ .unknownEntity name := by
  induction fs with
  | nil => exact nomatch h
  | cons f fs ih =>
    rcases bind_eq_error (show readField f given >>= _ = Except.error e from h) with
      hfirst | ⟨first, -, hrest⟩
    · unfold readField at hfirst
      split at hfirst
      · exact nomatch hfirst
      split at hfirst
      · cases hfirst
        exact Error.noConfusion
      split at hfirst
      · exact nomatch hfirst
      · cases hfirst
        exact Error.noConfusion
    · rcases bind_eq_error hrest with hfails | ⟨rest, -, hnone⟩
      · exact ih hfails
      · exact nomatch hnone

/-- Building a record never fails on a word for its kind. -/
lemma build_ne_unknownEntity {isPartial : Bool} (h : s.build given isPartial = .error e)
    (name : String) : e ≠ .unknownEntity name := by
  unfold build at h
  rcases bind_eq_error h with hread | ⟨record, -, hchecked⟩
  · exact readFields_ne_unknownEntity hread name
  · split at hchecked
    · cases hchecked
      exact Error.noConfusion
    · exact nomatch hchecked

end Schema

/-- What a record fails to be built for is no unknown kind. -/
lemma not_isUnknownKind_of_build {s : Schema} {given : String → Option String} {isPartial : Bool}
    {e : Schema.Error} (h : s.build given isPartial = .error e) :
    ¬(Failure.schema e).IsUnknownKind := by
  intro hunknown
  cases e with
  | unknownEntity name => exact Schema.build_ne_unknownEntity h name rfl
  | _ => exact hunknown

/-! ## Actions -/

namespace Shell

variable {α β : Type}

/-- An action keeps a world untroubled, and if it succeeds something is known of its answer. -/
def Keeps (action : Shell α) (P : α → Prop) : Prop :=
  ∀ w, w.Untroubled →
    (action.perform w).2.Untroubled ∧ ∀ a, (action.perform w).1 = .ok a → P a

/-- A sequence keeps a world untroubled if its parts do. -/
theorem Keeps.bind {action : Shell α} {rest : α → Shell β} {P : α → Prop} {Q : β → Prop}
    (h : Keeps action P) (hrest : ∀ a, P a → Keeps (rest a) Q) : Keeps (action >>= rest) Q := by
  intro w hw
  obtain ⟨huntroubled, hanswer⟩ := h w hw
  rcases perform_bind_cases action rest w with ⟨a, w', hrun, hbind⟩ | ⟨e, w', hrun, hbind⟩
  · rw [hrun] at huntroubled hanswer
    rw [hbind]
    exact hrest a (hanswer a rfl) w' huntroubled
  · rw [hrun] at huntroubled
    rw [hbind]
    exact ⟨huntroubled, fun _ hok => nomatch hok⟩

/-- An answer changes nothing. -/
lemma keeps_pure {P : α → Prop} {a : α} (h : P a) : Keeps (pure a) P :=
  fun _ hw => ⟨hw, fun _ hok => Except.ok.inj hok ▸ h⟩

/-- Looking at the world changes nothing. -/
lemma keeps_get : Keeps (get : Shell World) World.Untroubled :=
  fun _ hw => ⟨hw, fun _ hok => Except.ok.inj hok ▸ hw⟩

/-- The world may be replaced by one with the journal of an untroubled one. -/
lemma keeps_set {w s : World} (h : w.Untroubled) (hjournal : s.journal = w.journal) :
    Keeps (set s : Shell Unit) fun _ => True := by
  refine fun _ _ => ⟨fun cause hcause => ?_, fun _ _ => trivial⟩
  exact h cause (hjournal ▸ hcause)

/-- The world may be changed but for its journal. -/
lemma keeps_modify {f : World → World} (h : ∀ w, (f w).journal = w.journal) :
    Keeps (modify f : Shell Unit) fun _ => True := by
  refine fun w hw => ⟨fun cause hcause => ?_, fun _ _ => trivial⟩
  exact hw cause (h w ▸ hcause)

/-- The session may be changed. -/
lemma keeps_modifySession (f : Session → Session) : Keeps (modifySession f) fun _ => True :=
  keeps_modify fun _ => rfl

/-- Occurrences may be noted but for failures on unknown kinds. -/
lemma keeps_note {occurrences : List Occurrence}
    (h : ∀ cause, .failure cause ∈ occurrences → ¬cause.IsUnknownKind) :
    Keeps (note occurrences) fun _ => True := by
  refine fun w hw => ⟨fun cause hcause => ?_, fun _ _ => trivial⟩
  rcases List.mem_append.1 hcause with hbefore | hnoted
  · exact hw cause hbefore
  · exact h cause hnoted

/-- Lines may be written. -/
lemma keeps_sayAll (lines : List String) : Keeps (sayAll lines) fun _ => True := by
  refine keeps_note fun cause hcause => ?_
  obtain ⟨line, -, hline⟩ := List.mem_map.1 hcause
  exact nomatch hline

/-- A line may be written. -/
lemma keeps_say (line : String) : Keeps (say line) fun _ => True :=
  keeps_sayAll [line]

/-- Any other failure may be met. -/
lemma keeps_fail {P : α → Prop} {cause : Failure} (h : ¬cause.IsUnknownKind) :
    Keeps (fail cause : Shell α) P := by
  have hnoted : Keeps (note [.failure cause]) fun _ => True := by
    refine keeps_note fun other hother => ?_
    cases List.mem_singleton.1 hother
    exact h
  exact hnoted.bind fun _ _ _ hw => ⟨hw, fun _ hok => nomatch hok⟩

/-- After a failure the rest of a sequence is left out. -/
lemma keeps_fail_bind {P : β → Prop} {cause : Failure} {rest : α → Shell β}
    (h : ¬cause.IsUnknownKind) : Keeps (fail cause >>= rest) P :=
  Keeps.bind (P := fun _ => False) (keeps_fail h) fun _ hnone => hnone.elim

/-- A refusal may be met. -/
lemma keeps_heed (fault : Option String) : Keeps (heed fault) fun _ => True := by
  cases fault with
  | none => exact keeps_pure trivial
  | some message => exact keeps_fail id

/-- The faults of a call may be learnt. -/
lemma keeps_call : Keeps call fun _ => True :=
  keeps_get.bind fun _ hw => (keeps_set hw rfl).bind fun _ _ => keeps_pure trivial

/-- A call may meet a refusal. -/
lemma keeps_callUnless (fault : Faults → Option String) : Keeps (callUnless fault) fun _ => True :=
  keeps_call.bind fun _ _ => (keeps_heed _).bind fun _ _ => (keeps_heed _).bind fun _ _ =>
    keeps_pure trivial

/-- A refresh notice may be given. -/
lemma keeps_notify : Keeps notify fun _ => True := by
  refine keeps_call.bind fun _ _ => (keeps_modify ?_).bind fun _ _ =>
    (keeps_note ?_).bind fun _ _ => keeps_heed _
  · exact fun _ => rfl
  · exact fun _ hcause => nomatch List.mem_singleton.1 hcause

/-! ### The store -/

/-- The store finds the kind of records that a name stands for. -/
lemma keeps_repository (kind : Entity) : Keeps (repository kind.name) fun _ => True := by
  refine keeps_call.bind fun _ _ => (keeps_heed _).bind fun _ _ => ?_
  rw [Store.kindNamed_name]
  exact keeps_pure trivial

/-- The schema of the kind of records that a name stands for is found. -/
lemma keeps_schema (kind : Entity) :
    Keeps (schema kind.name) fun s => s = Schema.ofEntity kind := by
  unfold schema
  rw [Schema.ofName_name]
  exact keeps_pure rfl

/-- Records may be looked up. -/
lemma keeps_findRecord (kind : Entity) (id : Option String) :
    Keeps (findRecord kind id) fun _ => True :=
  (keeps_callUnless _).bind fun _ _ => keeps_get.bind fun _ _ => keeps_pure trivial

/-- Records may be listed. -/
lemma keeps_listRecords (kind : Entity) : Keeps (listRecords kind) fun _ => True :=
  (keeps_callUnless _).bind fun _ _ => keeps_get.bind fun _ _ => keeps_pure trivial

/-- The store may be changed by an operation that knows its kind of records. -/
lemma keeps_changeStore {operation : Store → Except Store.Error α × Store}
    (refusal : Option String)
    (h : ∀ s e, (operation s).1 = .error e → ∀ name, e ≠ .unknownKind name) :
    Keeps (changeStore refusal operation) fun _ => True := by
  refine keeps_get.bind fun w hw => ?_
  have herror := h w.store
  rcases hrun : operation w.store with ⟨outcome, s⟩
  rw [hrun] at herror
  dsimp only
  refine (keeps_set hw ?_).bind fun _ _ => ?_
  · rfl
  cases outcome with
  | ok a =>
    refine (keeps_heed _).bind fun _ _ => (keeps_note ?_).bind fun _ _ => keeps_pure trivial
    exact fun _ hcause => nomatch List.mem_singleton.1 hcause
  | error e =>
    have hfails : ¬(Failure.store e).IsUnknownKind := by
      intro hunknown
      cases e with
      | unknownKind name => exact herror _ rfl name rfl
      | _ => exact hunknown
    dsimp only
    split
    · exact (keeps_heed _).bind fun _ _ => keeps_fail hfails
    · exact keeps_fail hfails

/-- Records may be created. -/
lemma keeps_createRecord (kind : Entity) (data : Fields) :
    Keeps (createRecord kind data) fun _ => True := by
  have hstore : ∀ refusal, Keeps (changeStore refusal fun s => s.create kind data) fun _ => True :=
    fun refusal => keeps_changeStore refusal fun _ _ => Store.create_ne_unknownKind
  unfold createRecord
  refine keeps_call.bind fun faults _ => (keeps_heed _).bind fun _ _ => ?_
  split
  · refine (keeps_modify ?_).bind fun _ _ => (keeps_heed _).bind fun _ _ => hstore _
    exact fun _ => rfl
  · exact (keeps_heed _).bind fun _ _ => hstore _

/-- Records may be updated. -/
lemma keeps_updateRecord (kind : Entity) (id : Option String) (changes : Fields) :
    Keeps (updateRecord kind id changes) fun _ => True :=
  (keeps_callUnless _).bind fun _ _ =>
    keeps_changeStore _ fun _ _ => Store.update_ne_unknownKind

/-- Records may be deleted. -/
lemma keeps_deleteRecord (kind : Entity) (id : Option String) :
    Keeps (deleteRecord kind id) fun _ => True :=
  (keeps_callUnless _).bind fun _ _ =>
    keeps_changeStore _ fun _ _ => Store.delete_ne_unknownKind

end Shell

/-! ## Commands -/

/-- If a command names a kind of records, it does so by its name. -/
def Command.NamesKind (c : Command) : Prop :=
  ∀ entity, nonEmpty? c.entity = some entity → ∃ kind : Entity, kind.name = entity

/-- A safe command names kinds of records by their names. -/
lemma Command.Safe.namesKind {c : Command} (h : c.Safe) : c.NamesKind := by
  intro entity hentity
  obtain ⟨hnamed, hfilled⟩ := nonEmpty?_eq_some.1 hentity
  rcases h.entity with hnone | hempty | ⟨kind, hkind⟩
  · exact nomatch hnamed.symm.trans hnone
  · exact absurd (Option.some.inj (hnamed.symm.trans hempty)) hfilled
  · exact ⟨kind, Option.some.inj (hkind.symm.trans hnamed)⟩

namespace Shell

variable {c : Command}

/-- The kind of records that a command names, if it names one. -/
lemma keeps_requireEntity (h : c.NamesKind) (usage : String) :
    Keeps (requireEntity c usage) fun found =>
      ∀ entity, found = some entity → ∃ kind : Entity, kind.name = entity := by
  unfold requireEntity
  split
  · next entity hentity =>
    refine keeps_pure fun found hfound => ?_
    cases hfound
    exact h entity hentity
  · exact (keeps_say _).bind fun _ _ => (keeps_say _).bind fun _ _ =>
      keeps_pure fun _ hfound => nomatch hfound

/-- The filter of a command may be read. -/
lemma keeps_filterOf (c : Command) : Keeps (filterOf c) fun _ => True := by
  unfold filterOf
  split
  · exact keeps_pure trivial
  · exact keeps_fail id

/-- Records of a kind may be selected. -/
lemma keeps_select (kind : Entity) (filter : Filter) (keep : Fields → Bool) :
    Keeps (select kind.name filter keep) fun _ => True :=
  (keeps_repository kind).bind fun found _ => (keeps_listRecords found).bind fun _ _ =>
    keeps_pure trivial

/-- Records may be written under a heading. -/
lemma keeps_render (entity heading : String) (records : List Fields) :
    Keeps (render entity heading records) fun _ => True := by
  refine (keeps_say _).bind fun _ _ => ?_
  split
  · exact keeps_say _
  · exact keeps_sayAll _

/-- Flags that name no field may be mentioned. -/
lemma keeps_warnUnknown (s : Schema) (flags : Entries String) :
    Keeps (warnUnknown s flags) fun _ => True := by
  unfold warnUnknown
  split
  · exact keeps_pure trivial
  · exact keeps_say _

/-- `list` asks for a kind of records that there is. -/
lemma keeps_list (h : c.NamesKind) : Keeps (list c) fun _ => True := by
  refine (keeps_requireEntity h _).bind ?_
  rintro (_ | entity) hentity
  · exact keeps_pure trivial
  · obtain ⟨kind, rfl⟩ := hentity _ rfl
    exact (keeps_filterOf c).bind fun filter _ => (keeps_select kind filter _).bind fun _ _ =>
      (keeps_modifySession _).bind fun _ _ => keeps_render _ _ _

/-- `search` asks for a kind of records that there is. -/
lemma keeps_search (h : c.NamesKind) : Keeps (search c) fun _ => True := by
  refine (keeps_requireEntity h _).bind ?_
  rintro (_ | entity) hentity
  · exact keeps_pure trivial
  · obtain ⟨kind, rfl⟩ := hentity _ rfl
    dsimp only
    split
    · exact (keeps_say _).bind fun _ _ => keeps_say _
    · exact (keeps_filterOf c).bind fun filter _ => (keeps_select kind filter _).bind fun _ _ =>
        (keeps_modifySession _).bind fun _ _ => keeps_render _ _ _

/-- `info` asks for a kind of records that there is. -/
lemma keeps_info (h : c.NamesKind) : Keeps (info c) fun _ => True := by
  refine (keeps_requireEntity h _).bind ?_
  rintro (_ | entity) hentity
  · exact keeps_pure trivial
  · obtain ⟨kind, rfl⟩ := hentity _ rfl
    refine (keeps_repository kind).bind fun found _ => (keeps_findRecord found _).bind ?_
    rintro (_ | record) -
    · exact keeps_say _
    · exact (keeps_say _).bind fun _ _ => (keeps_schema kind).bind fun _ _ => keeps_sayAll _

/-- `update` asks for a kind of records that there is. -/
lemma keeps_update (h : c.NamesKind) : Keeps (update c) fun _ => True := by
  refine (keeps_requireEntity h _).bind ?_
  rintro (_ | entity) hentity
  · exact keeps_pure trivial
  obtain ⟨kind, rfl⟩ := hentity _ rfl
  refine (keeps_schema kind).bind fun s _ => (keeps_warnUnknown s _).bind fun _ _ => ?_
  dsimp only
  split
  · exact (keeps_say _).bind fun _ _ => keeps_say _
  refine (keeps_repository kind).bind fun found _ => (keeps_findRecord found _).bind ?_
  rintro (_ | record) -
  · exact keeps_say _
  dsimp only
  split
  · rw [pure_bind]
    exact (keeps_updateRecord found _ _).bind fun _ _ => (keeps_say _).bind fun _ _ =>
      (keeps_sayAll _).bind fun _ _ => keeps_notify
  · next hbuild => exact keeps_fail_bind (not_isUnknownKind_of_build hbuild)

/-- `use` asks for a kind of records that there is. -/
lemma keeps_use (h : c.NamesKind) : Keeps (use c) fun _ => True := by
  have hcontext : Keeps showContext fun _ => True :=
    keeps_get.bind fun _ _ => (keeps_say _).bind fun _ _ => keeps_sayAll _
  unfold use
  split
  · exact hcontext
  next entity hentity =>
  obtain ⟨kind, rfl⟩ := h entity hentity
  split
  · exact (keeps_say _).bind fun _ _ => keeps_say _
  split
  · exact (keeps_modifySession _).bind fun _ _ => keeps_say _
  refine (keeps_repository kind).bind fun found _ => (keeps_findRecord found _).bind ?_
  rintro (_ | record) -
  · exact keeps_say _
  · exact (keeps_modifySession _).bind fun _ _ => keeps_say _

/-! ### Creating -/

end Shell

namespace Creation

open Shell

/-- A record may be built and stored. -/
lemma keeps_store (kind : Entity) (values : Entries String) :
    Keeps (store kind values) fun _ => True := by
  unfold store
  dsimp only
  split
  · rw [pure_bind]
    refine (keeps_repository kind).bind fun found _ => (keeps_createRecord found _).bind
      fun id _ => (keeps_say _).bind fun _ _ => (keeps_say _).bind fun _ _ => ?_
    split
    · split
      · exact (keeps_say _).bind fun _ _ => keeps_notify
      · exact keeps_notify
    · exact keeps_notify
  · next hbuild => exact keeps_fail_bind (not_isUnknownKind_of_build hbuild)

/-- Fields may be asked for. -/
lemma keeps_askFields (kind : Entity) (values : Entries String) (fs : List Field) :
    Keeps (askFields kind values fs) fun _ => True := by
  induction fs with
  | nil => exact (keeps_store kind values).bind fun _ _ => keeps_pure trivial
  | cons f fs ih =>
    unfold askFields
    split
    · exact ih
    · exact keeps_pure trivial

/-- The parent may be asked for. -/
lemma keeps_askParent (kind : Entity) (values : Entries String) :
    Keeps (askParent kind values) fun _ => True := by
  unfold askParent
  split
  · refine keeps_get.bind fun w _ => ?_
    split <;> exact keeps_pure trivial
  · exact keeps_askFields kind values _

/-- A creation may begin. -/
lemma keeps_begin (kind : Entity) (values : Entries String) :
    Keeps (begin kind values) fun _ => True := by
  unfold begin
  split
  · exact keeps_askParent kind values
  · exact keeps_pure trivial

/-- A creation may go on. -/
lemma keeps_resume (c : Creation) (answer : String) : Keeps (c.resume answer) fun _ => True := by
  unfold resume
  split
  · exact keeps_askParent _ _
  · exact keeps_askFields _ _ _
  · split
    · exact (keeps_say _).bind fun _ _ => keeps_pure trivial
    · exact keeps_askFields _ _ _

end Creation

namespace Shell

variable {c : Command}

/-- A record may be stored straight away. -/
lemma keeps_quickCreate (kind : Entity) (values : Entries String) :
    Keeps (quickCreate kind values) fun _ => True :=
  keeps_get.bind fun _ _ => Creation.keeps_store kind _

/-- A record may be created step by step. -/
lemma keeps_guidedCreate (kind : Entity) (values : Entries String) :
    Keeps (guidedCreate kind values) fun _ => True :=
  (keeps_say _).bind fun _ _ => (keeps_say _).bind fun _ _ => Creation.keeps_begin kind values

/-- `create` asks for a kind of records that there is. -/
lemma keeps_create (h : c.NamesKind) : Keeps (create c) fun _ => True := by
  refine (keeps_requireEntity h _).bind ?_
  rintro (_ | entity) hentity
  · exact keeps_pure trivial
  obtain ⟨kind, rfl⟩ := hentity _ rfl
  refine (keeps_schema kind).bind fun s _ => (keeps_warnUnknown s _).bind fun _ _ =>
    keeps_get.bind fun _ _ => ?_
  dsimp only
  split
  · exact (keeps_quickCreate _ _).bind fun _ _ => keeps_pure trivial
  · exact keeps_guidedCreate _ _

/-! ### Removing -/

/-- A record of a kind that is named may be deleted. -/
lemma keeps_carryOut (kind : Entity) (record : Fields) :
    Keeps (Removal.carryOut ⟨kind.name, record⟩) fun _ => True := by
  have hreport : ∀ line, Keeps (do say line; notify) fun _ => True := fun line =>
    (keeps_say line).bind fun _ _ => keeps_notify
  refine (keeps_repository kind).bind fun found _ => (keeps_deleteRecord found _).bind fun _ _ => ?_
  dsimp only
  split
  · refine keeps_get.bind fun w _ => ?_
    split
    · exact (keeps_modifySession _).bind fun _ _ => hreport _
    · exact hreport _
  · exact hreport _

/-- `remove` asks for a kind of records that there is, and its question keeps the name. -/
lemma keeps_remove (h : c.NamesKind) :
    Keeps (remove c) fun progress => ∀ q r, progress = .asks q r →
      ∃ kind : Entity, kind.name = r.entity := by
  refine (keeps_requireEntity h _).bind ?_
  rintro (_ | entity) hentity
  · exact keeps_pure fun _ _ hasks => nomatch hasks
  obtain ⟨kind, rfl⟩ := hentity _ rfl
  refine (keeps_repository kind).bind fun found _ => (keeps_findRecord found _).bind ?_
  rintro (_ | record) -
  · exact (keeps_say _).bind fun _ _ => keeps_pure fun _ _ hasks => nomatch hasks
  dsimp only
  split
  · exact (keeps_carryOut kind record).bind fun _ _ => keeps_pure fun _ _ hasks => nomatch hasks
  · refine keeps_pure fun _ r hasks => ?_
    cases hasks
    exact ⟨kind, rfl⟩

end Shell

/-! ## Lines and answers -/

/-- An activity that waits for an answer knows the kind of its record by name. -/
def Activity.Named : Activity → Prop
  | .creation _ => True
  | .removal r => ∃ kind : Entity, kind.name = r.entity
  | .refusal _ => True

/-- An activity that a line leaves is named. -/
def Progress.Named (progress : Progress Activity) : Prop :=
  ∀ q activity, progress = .asks q activity → activity.Named

namespace Shell

variable {c : Command}

/-- Nothing is left when a command is finished. -/
lemma named_finished : Progress.Named .finished :=
  fun _ _ hasks => nomatch hasks

/-- The command of a verb, if the kind of records that it names is one. -/
theorem keeps_dispatch (h : c.NamesKind) (line : String) :
    Keeps (dispatch c line) Progress.Named := by
  unfold dispatch
  split
  · exact (keeps_list h).bind fun _ _ => keeps_pure named_finished
  · exact (keeps_search h).bind fun _ _ => keeps_pure named_finished
  · exact (keeps_info h).bind fun _ _ => keeps_pure named_finished
  · exact (keeps_update h).bind fun _ _ => keeps_pure named_finished
  · exact (keeps_use h).bind fun _ _ => keeps_pure named_finished
  · refine (keeps_create h).bind fun progress _ => keeps_pure fun q activity hasks => ?_
    cases progress with
    | finished => exact nomatch hasks
    | asks question next =>
      cases hasks
      trivial
  · refine (keeps_remove h).bind fun progress hprogress => keeps_pure fun q activity hasks => ?_
    cases progress with
    | finished => exact nomatch hasks
    | asks question next =>
      cases hasks
      exact hprogress _ _ rfl
  all_goals
    exact (keeps_say _).bind fun _ _ => (keeps_say _).bind fun _ _ => keeps_pure named_finished

/-- A command line. -/
theorem keeps_run (aliases : Entries String) (line : String) :
    Keeps (run aliases line) Progress.Named := by
  refine (keeps_modifySession _).bind fun _ _ => keeps_get.bind fun w _ => ?_
  split
  · exact (keeps_sayAll _).bind fun _ _ => keeps_pure named_finished
  split
  · refine Keeps.bind (P := fun _ => True) ?_ fun _ _ => keeps_pure named_finished
    refine (keeps_say _).bind fun _ _ => ?_
    split
    · exact keeps_pure trivial
    · exact keeps_say _
  · next hproblem => exact keeps_dispatch (Command.safe_parse hproblem).namesKind line

/-- An answer to an activity that is named. -/
theorem keeps_resume {activity : Activity} (h : activity.Named) (answer : String) :
    Keeps (resume activity answer) Progress.Named := by
  cases activity with
  | creation c =>
    refine (c.keeps_resume answer).bind fun progress _ => keeps_pure fun q activity hasks => ?_
    cases progress with
    | finished => exact nomatch hasks
    | asks question next =>
      cases hasks
      trivial
  | removal r =>
    obtain ⟨entity, record⟩ := r
    obtain ⟨kind, rfl⟩ := h
    refine Keeps.bind (P := fun _ => True) ?_ fun _ _ => keeps_pure named_finished
    unfold Removal.resume
    split
    · exact keeps_carryOut kind record
    · exact keeps_say _
  | refusal message => exact keeps_fail id

end Shell

end TaskShell
