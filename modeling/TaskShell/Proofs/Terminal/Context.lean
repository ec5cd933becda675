import TaskShell.Proofs.Store.Validity
import TaskShell.Proofs.Terminal.Run

/-!
# The context never dangles

As long as only lines change the store, every level of the context points at a record of its kind
that is there, or at none: a level is pointed at a record that has been found, and a removal empties
the level that points at the removed record. So a parent that the context supplies is there when the
record is stored that takes it, also if it was offered several lines before.

## Main definitions

* `Context.Grounded` — levels point at records that are there.
* `Context.Traced` — levels do, but for those that point where they did at first.
* `Terminal.takes?`, `Terminal.taken` — the parent that a creation under way takes from the session.

## Main results

* `Deed.traced`, `Deed.grounded` — deeds keep the context traced, and grounded.
* `Terminal.context_never_dangles` — the context is grounded in every run, and so are the parents
  that it supplies.
-/

set_option autoImplicit false

namespace TaskShell

open Shell

/-! ## Deeds and the context -/

/-- Every level of a context points at a record of its kind that is there, or at none. -/
def Context.Grounded (c : Context) (records : List Record) : Prop :=
  ∀ level id, c.get level = some id → ∃ r ∈ records, r.kind = level.kind ∧ r.id = id

/-- Every level of a context points where another context does, or at a record of its kind that is
there, or at none. -/
def Context.Traced (origin c : Context) (records : List Record) : Prop :=
  ∀ level id, c.get level = some id →
    origin.get level = some id ∨ ∃ r ∈ records, r.kind = level.kind ∧ r.id = id

/-- A grounded context is one that is traced to the empty one. -/
lemma Context.traced_empty_iff {c : Context} {records : List Record} :
    Traced {} c records ↔ c.Grounded records := by
  have hempty : ∀ level, Context.get {} level = none := by
    intro level
    cases level <;> rfl
  unfold Traced Grounded
  simp [hempty]

/-- A record that replaces one with its kind and id takes its place in the context. -/
lemma Context.Traced.replaced {origin c : Context} {records : List Record}
    (h : Traced origin c records) (hdistinct : Store.Distinct records) {former r : Record}
    (hformer : former ∈ records) (hkind : r.kind = former.kind) (hid : r.id = former.id) :
    Traced origin c (Store.replaced records r) := by
  intro level id hget
  refine (h level id hget).imp_right fun ⟨q, hq, hqkind, hqid⟩ => ?_
  refine ⟨_, List.mem_map_of_mem hq, ?_⟩
  split
  · next hnamed =>
    have hsame := ((Store.isNamed_iff _ _ _).1 hnamed).2
    rw [hid] at hsame
    obtain rfl := hdistinct.eq_of_sameId hq hformer hsame
    exact ⟨hkind.trans hqkind, hid.trans hqid⟩
  · exact ⟨hqkind, hqid⟩

/-- A level that points somewhere once a record has been removed has done so before. -/
lemma Deed.get_of_contextWithout {c : Context} {r : Record} {level : Level} {id : String}
    (h : (contextWithout c r).get level = some id) : c.get level = some id := by
  unfold contextWithout at h
  split at h
  · split at h
    · rw [Context.get_clearDeeper, Context.get_set] at h
      split at h
      · exact nomatch h
      · split at h
        · exact nomatch h
        · exact h
    · exact h
  · exact h

/-- Once a record has been removed and the level emptied that pointed at it, what is left of the
context is traced to the others. -/
lemma Context.Traced.erased {origin c : Context} {records : List Record}
    (h : Traced origin c records) (hdistinct : Store.Distinct records) {r : Record}
    (hr : r ∈ records) :
    Traced origin (Deed.contextWithout c r) (Store.erased records r) := by
  intro level id hget
  have hformer : c.get level = some id := Deed.get_of_contextWithout hget
  refine (h level id hformer).imp_right fun ⟨q, hq, hqkind, hqid⟩ => ?_
  refine ⟨q, List.mem_filter.2 ⟨hq, ?_⟩, hqkind, hqid⟩
  cases hnamed : Store.isNamed r.kind r.id q with
  | false => rfl
  | true =>
    -- the level points at the removed record, so it has been emptied
    obtain rfl := hdistinct.eq_of_sameId hq hr ((Store.isNamed_iff _ _ _).1 hnamed).2
    exfalso
    unfold Deed.contextWithout at hget
    rw [hqkind, Level.ofName?_name] at hget
    simp only [hformer, Option.getD_some, hqid, if_true] at hget
    rw [get_clearDeeper, get_set, if_pos rfl] at hget
    split at hget <;> exact nomatch hget

/-- Further records leave a context traced. -/
lemma Context.Traced.append {origin c : Context} {records : List Record}
    (h : Traced origin c records) (added : List Record) :
    Traced origin c (records ++ added) := fun level id hget =>
  (h level id hget).imp_right fun ⟨q, hq, hfits⟩ => ⟨q, List.mem_append_left _ hq, hfits⟩

/-- Possible deeds keep the context traced. -/
theorem Deed.traced {deed : Deed} {origin c : Context} {records : List Record}
    (h : Context.Traced origin c records) (hdistinct : Store.Distinct records)
    (hpossible : deed.Possible records) :
    Context.Traced origin (deed.context c) (deed.records records) := by
  cases deed with
  | nothing => exact h
  | created values fields r => exact h.append [r]
  | updated changes former r =>
    obtain ⟨hformer, hmerged, -⟩ := hpossible
    exact h.replaced hdistinct hformer hmerged.kind_eq hmerged.id_eq
  | removed r => exact h.erased hdistinct hpossible
  | pointed level r =>
    obtain ⟨hr, hkind⟩ := hpossible
    intro other id hget
    change ((c.set level (some r.id)).clearDeeper level).get other = some id at hget
    rw [Context.get_clearDeeper, Context.get_set] at hget
    split at hget
    · exact nomatch hget
    · split at hget
      · next hlevel =>
        cases hget
        exact .inr ⟨r, hr, by rw [← hlevel]; exact hkind, rfl⟩
      · exact h other id hget
  | emptied level =>
    intro other id hget
    change (c.set level none).get other = some id at hget
    rw [Context.get_set] at hget
    split at hget
    · exact nomatch hget
    · exact h other id hget

/-- Possible deeds keep the context grounded. -/
theorem Deed.grounded {deed : Deed} {c : Context} {records : List Record} (h : c.Grounded records)
    (hdistinct : Store.Distinct records) (hpossible : deed.Possible records) :
    (deed.context c).Grounded (deed.records records) :=
  Context.traced_empty_iff.1 (Deed.traced (Context.traced_empty_iff.2 h) hdistinct hpossible)

/-! ## Parents that the session supplies -/

/-- The level that supplies parents for a kind points at records of the kind of the parents. -/
lemma parent?_of_supplying? {kind : Entity} {level : Level}
    (h : Level.supplying? kind = some level) : kind.parent? = some level.kind := by
  revert h
  cases kind <;> cases level <;> decide

/-- A parent that the session supplies is there. -/
lemma Context.Grounded.parent {s : Session} {records : List Record} {kind : Entity}
    {parent : String} (h : s.context.Grounded records)
    (hparent : Command.nonEmpty? (s.defaultParent? kind) = some parent) :
    ∃ r ∈ records, some r.kind = kind.parent? ∧ r.id = parent := by
  have hdefault : s.defaultParent? kind = some parent := (Option.filter_eq_some_iff.1 hparent).1
  obtain ⟨level, hlevel, hget⟩ := Option.bind_eq_some_iff.1 hdefault
  obtain ⟨r, hr, hkind, hid⟩ := h level parent hget
  exact ⟨r, hr, by rw [parent?_of_supplying? hlevel, hkind], hid⟩

namespace Terminal

/-- The parent that the creation of a command takes from the session if it is stored at once. -/
def commandParent? (s : Session) (c : Command) : Option String :=
  (c.entity.bind Entity.ofName?).bind fun kind =>
    if (Schema.ofEntity kind).requiresParent &&
        !(valuesOf (Schema.ofEntity kind) c).isFilled "parentId" then
      Command.nonEmpty? (s.defaultParent? kind)
    else none

/-- The parent that the creation under way has taken from the session, once a line is heard: a blank
answer takes the one that is offered, answers for other fields keep what was taken before, and a
command takes the one of its creation. -/
def takes? (t : Terminal) (before : Option String) (u : Utterance) : Option String :=
  match t.prompt, u with
  | some ⟨_, .creation c⟩, u =>
    match c.stage with
    | .title => none
    | .parent default => if Text.trim u.line = "" then default else none
    | .field .. => before
  | some _, _ => none
  | none, .command line =>
    commandParent? t.world.session (Command.parse t.aliases (Text.trim line))
  | none, .answer _ => none

/-- The parent that the creation under way has taken from the session after some lines. -/
def taken (t : Terminal) (us : List Utterance) : Option String :=
  (us.foldl (fun (s : Terminal × Option String) u => (s.1.hear u, s.1.takes? s.2 u)) (t, none)).2

/-- A parent taken by a creation that waits for a field is among its values, and it is still the one
that the session supplies. -/
def Holds (t : Terminal) (before : Option String) : Prop :=
  ∀ q c f fs parent, t.prompt = some ⟨q, .creation c⟩ → c.stage = .field f fs →
    before = some parent → c.values.value? "parentId" = some parent ∧
      Command.nonEmpty? (t.world.session.defaultParent? c.kind) = some parent

variable {t t' : Terminal} {deed : Deed} {outcome : LineOutcome} {before : Option String}
  {u : Utterance} {parent : String}

/-- No field that is asked for is the parent. -/
lemma name_ne_parentId (kind : Entity) :
    ∀ f ∈ (Schema.ofEntity kind).guidedFields, f.name ≠ "parentId" := by
  cases kind <;> decide

/-- A creation that has taken a parent has it among its values after the answer. -/
lemma value?_answered {p : Pending Activity} {c : Creation} (hwaits : t.Waits)
    (hholds : t.Holds before) (hp : t.prompt = some p) (hc : p.next = .creation c)
    (htakes : t.takes? before u = some parent) :
    (c.answered (Text.trim u.line)).value? "parentId" = some parent ∧
      Command.nonEmpty? (t.world.session.defaultParent? c.kind) = some parent := by
  obtain ⟨q, next⟩ := p
  obtain rfl : next = .creation c := hc
  obtain ⟨-, hfits⟩ := hwaits _ hp
  change c.Fits t.world.session at hfits
  unfold takes? at htakes
  rw [hp] at htakes
  obtain ⟨kind, values, stage⟩ := c
  cases stage with
  | title => cases htakes
  | parent default =>
    dsimp only at htakes
    split at htakes
    · next hblank =>
      obtain rfl : default = some parent := htakes
      refine ⟨?_, hfits.symm⟩
      simp [Creation.answered, hblank, Entries.value?_put]
    · cases htakes
  | field f fs =>
    obtain ⟨hvalue, hdefault⟩ := hholds q _ f fs parent hp rfl htakes
    refine ⟨?_, hdefault⟩
    have hname : f.name ≠ "parentId" := name_ne_parentId kind f (hfits List.mem_cons_self)
    unfold Creation.answered
    dsimp only
    split
    · exact hvalue
    · rw [Entries.value?_put, if_neg hname]
      exact hvalue

/-- The creation of a command that takes a parent has it among its values, if it is stored at once. -/
lemma value?_inherit {s : Session} {c : Command} {kind : Entity} (hkind : c.entity = some kind.name)
    (htakes : commandParent? s c = some parent) :
    (Creation.inherit s kind (valuesOf (Schema.ofEntity kind) c)).value? "parentId" = some parent ∧
      Command.nonEmpty? (s.defaultParent? kind) = some parent ∧
      ((Schema.ofEntity kind).requiresParent &&
        !(valuesOf (Schema.ofEntity kind) c).isFilled "parentId") = true := by
  unfold commandParent? at htakes
  rw [hkind, Option.bind_some, Entity.ofName?_name, Option.bind_some] at htakes
  split at htakes
  · next hopen =>
    refine ⟨?_, htakes, hopen⟩
    have hdefault : s.defaultParent? kind = some parent := (Option.filter_eq_some_iff.1 htakes).1
    rw [Creation.inherit, if_pos hopen, hdefault]
    simp [Entries.value?_put]
  · exact nomatch htakes

/-- A command that takes a parent asks for no field. -/
lemma stage_of_open? {s : Session} {kind : Entity} {values : Entries String} {c : Creation}
    (hneeded : ((Schema.ofEntity kind).requiresParent && !values.isFilled "parentId") = true)
    (hopen : Creation.open? s kind values = some c) (f : Field) (fs : List Field) :
    c.stage ≠ .field f fs := by
  unfold Creation.open? Creation.openParent? at hopen
  rw [if_pos hneeded] at hopen
  split at hopen <;> cases hopen <;> exact nofun

/-- A line keeps what a creation has taken. -/
lemma Heard.holds (h : Heard t t' deed outcome) (hwaits : t.Waits) (hholds : t.Holds before)
    (hallows : t.Allows u deed outcome) : t'.Holds (t.takes? before u) := by
  intro q c f fs parent hprompt hstage htakes
  rw [h.prompt] at hprompt
  rcases outcome with e | _ | ⟨q', a⟩
  · exact nomatch hprompt
  · exact nomatch hprompt
  cases hprompt
  obtain ⟨rfl, -, -⟩ := hallows.asks hwaits
  rw [Creation.defaultParent?_congr (s := t.world.session) h.context]
  unfold Allows at hallows
  cases hp : t.prompt with
  | some p =>
    rw [hp] at hallows
    rcases hallows with ⟨-, hsame⟩ | hresumes
    · -- the question is asked again, so nothing has been taken or lost
      obtain ⟨q₁, next⟩ := p
      cases hsame
      have hbefore : before = some parent := by
        unfold takes? at htakes
        rw [hp] at htakes
        dsimp only at htakes
        rw [hstage] at htakes
        exact htakes
      exact hholds _ c f fs parent hp hstage hbefore
    · obtain ⟨-, -, c₀, c', hc₀, hc', hnext⟩ := hresumes.2 q _ rfl
      cases hc'
      have hfits : c₀.Fits t.world.session := by
        have hnext := (hwaits p hp).2
        rw [hc₀] at hnext
        exact hnext
      have hat := hfits.next hnext
      rw [hat.kind_eq, hat.values_eq]
      exact value?_answered hwaits hholds hp hc₀ htakes
  | none =>
    rw [hp] at hallows
    cases u with
    | command line =>
      obtain ⟨-, -, verb, -, -, kind, hkind, hopen⟩ := hallows.2 q _ rfl
      unfold takes? at htakes
      rw [hp] at htakes
      obtain ⟨-, -, hneeded⟩ := value?_inherit hkind htakes
      exact absurd hstage (stage_of_open? hneeded hopen f fs)
    | answer line => exact nomatch hallows.2

/-! ## Runs -/

/-- What holds all the time while a terminal hears lines. -/
structure Tracks (t : Terminal) (before : Option String) : Prop where
  sound : t.Sound
  grounded : t.world.session.context.Grounded t.world.store.records
  holds : t.Holds before

/-- A line keeps all that. -/
lemma Tracks.hear (h : t.Tracks before) (u : Utterance) :
    (t.hear u).Tracks (t.takes? before u) := by
  obtain ⟨deed, outcome, hheard, hallows⟩ := heard_hear h.sound.waits u
  refine ⟨h.sound.hear u, ?_, hheard.holds h.sound.waits h.holds hallows⟩
  rw [hheard.records, hheard.context]
  exact Deed.grounded h.grounded h.sound.distinct hheard.possible

/-- Lines keep all that. -/
lemma Tracks.hearAll (h : t.Tracks before) (us : List Utterance) :
    (t.hearAll us).Tracks
      (us.foldl (fun (s : Terminal × Option String) u => (s.1.hear u, s.1.takes? s.2 u))
        (t, before)).2 := by
  induction us generalizing t before with
  | nil => exact h
  | cons u us ih => exact ih (h.hear u)

/-- There are more records after a deed only if it created one. -/
lemma created_of_length_lt {records : List Record}
    (h : records.length < (deed.records records).length) :
    ∃ values fields child, deed = .created values fields child := by
  cases deed with
  | created values fields r => exact ⟨values, fields, r, rfl⟩
  | updated changes former r => simp [Deed.records, Store.replaced] at h
  | removed r =>
    have hle := List.length_filter_le (fun q => !Store.isNamed r.kind r.id q) records
    exact absurd h (Nat.not_lt.2 hle)
  | nothing => exact absurd h (Nat.lt_irrefl _)
  | pointed level r => exact absurd h (Nat.lt_irrefl _)
  | emptied level => exact absurd h (Nat.lt_irrefl _)

/-- If there are more records after a line, another one has come after those before. -/
lemma Sound.exists_stored (h : t.Sound)
    (hlength : t.world.store.records.length < (t.hear u).world.store.records.length) :
    ∃ child, (t.hear u).world.store.records = t.world.store.records ++ [child] := by
  obtain ⟨deed, outcome, hheard, -⟩ := heard_hear h.waits u
  rw [hheard.records] at hlength ⊢
  obtain ⟨values, fields, child, rfl⟩ := created_of_length_lt hlength
  exact ⟨child, rfl⟩

/-- A record built from values with a parent has that parent. -/
lemma parentId_of_created {records : List Record} {values : Entries String} {fields : Fields}
    {child : Record} (hpossible : (Deed.created values fields child).Possible records)
    (hvalue : values.value? "parentId" = some parent) (hparent : parent ≠ "")
    (hkind : child.kind.parent?.isSome) : child.parentId = some parent := by
  obtain ⟨-, hbuild, hnew⟩ := hpossible
  obtain ⟨value, hconvert, hfield⟩ :=
    Schema.value?_of_build hbuild (Record.parentId_mem_fields hkind) hvalue hparent
  obtain rfl : Value.text parent = value := Except.ok.inj hconvert
  have hcolumn := (hnew.columns_eq (Schema.conforms_of_build hbuild)
    (Record.title_of_complete (Schema.complete_of_build hbuild))).2
  obtain ⟨column, hcolumn, htext⟩ := Option.map_eq_some_iff.1 (hcolumn.trans hfield)
  obtain rfl : column = parent := Value.text.inj htext
  exact (Option.filter_eq_some_iff.1 hcolumn).1

/-- A record that a line creates while its creation takes a parent has it among its values, and it is
the one that the session supplies. -/
lemma Allows.value?_created {values : Entries String} {fields : Fields} {child : Record}
    (hallows : t.Allows u (.created values fields child) outcome) (hwaits : t.Waits)
    (hholds : t.Holds before) (htakes : t.takes? before u = some parent) :
    values.value? "parentId" = some parent ∧
      Command.nonEmpty? (t.world.session.defaultParent? child.kind) = some parent := by
  unfold Allows at hallows
  cases hp : t.prompt with
  | some p =>
    rw [hp] at hallows
    rcases hallows with ⟨hdeed, -⟩ | ⟨howns, -⟩
    · exact nomatch hdeed
    have howned := howns.resolve_left nofun
    -- only the answer to a question of a creation creates a record
    cases hnext : p.next with
    | creation c =>
      rw [hnext] at howned
      obtain ⟨fields', r, hdeed, hkind⟩ := howned
      cases hdeed
      rw [hkind]
      exact value?_answered hwaits hholds hp hnext htakes
    | removal r =>
      rw [hnext] at howned
      obtain ⟨record, -, hdeed, -⟩ := howned
      exact nomatch hdeed
    | refusal message =>
      rw [hnext] at howned
      exact howned.elim
  | none =>
    rw [hp] at hallows
    cases u with
    | command line =>
      obtain ⟨verb, -, -, hkind, hvalues⟩ := hallows.1.resolve_left nofun
      unfold takes? at htakes
      rw [hp] at htakes
      obtain ⟨hvalue, hdefault, -⟩ := value?_inherit hkind htakes
      rw [hvalues]
      exact ⟨hvalue, hdefault⟩
    | answer line => exact nomatch hallows.1

/-- A record stored with a parent taken from the session has that parent, and it is there. -/
lemma Tracks.stored (h : t.Tracks before) {child : Record}
    (hstored : (t.hear u).world.store.records = t.world.store.records ++ [child])
    (htakes : t.takes? before u = some parent) :
    child.parentId = some parent ∧
      ∃ r ∈ t.world.store.records, some r.kind = child.kind.parent? ∧ r.id = parent := by
  obtain ⟨deed, outcome, hheard, hallows⟩ := heard_hear h.sound.waits u
  have hrecords := hheard.records.symm.trans hstored
  have hlength : t.world.store.records.length < (deed.records t.world.store.records).length := by
    rw [hrecords]
    simp
  obtain ⟨values, fields, created, rfl⟩ := created_of_length_lt hlength
  obtain rfl : child = created := by simpa [Deed.records] using hrecords.symm
  obtain ⟨hvalue, hdefault⟩ := hallows.value?_created h.sound.waits h.holds htakes
  obtain ⟨r, hr, hkind, hid⟩ := h.grounded.parent hdefault
  have hne : parent ≠ "" := by simpa using (Option.filter_eq_some_iff.1 hdefault).2
  have hparent : child.parentId = some parent :=
    parentId_of_created hheard.possible hvalue hne (by rw [← hkind]; rfl)
  exact ⟨hparent, r, hr, hkind, hid⟩

/-- **The context never dangles.** From a store whose records have ids of their own, as the key of
their table demands, with an empty context, any aliases and any faults met by any calls, after any
commands and answers: a level of the context that is not empty points at a record of its kind that is
there; and a record that is then stored with a parent taken from the session, on that line or before,
gets that parent, which is a record of the kind that its own kind asks for and is there.

**Proof sketch.** Induction on the lines: the terminal stays sound and the context grounded, and what
a creation has taken stays among its values. While a creation waits, no line but its answers is
heard, so what it has taken is still what the session supplies when the record is stored. -/
theorem context_never_dangles (store : Store) (session : Session) (aliases : Entries String)
    (faults : Nat → Faults) (us : List Utterance) (hdistinct : Store.Distinct store.records)
    (hcontext : session.context = {}) :
    let start := opened store session aliases faults
    let t := start.hearAll us
    (∀ level id, t.world.session.context.get level = some id →
        ∃ r ∈ t.world.store.records, r.kind = level.kind ∧ r.id = id) ∧
      ∀ u child parent,
        (t.hear u).world.store.records = t.world.store.records ++ [child] →
        t.takes? (start.taken us) u = some parent →
        child.parentId = some parent ∧
          ∃ r ∈ t.world.store.records, some r.kind = child.kind.parent? ∧ r.id = parent := by
  intro start t
  have hstart : start.Tracks none := by
    refine ⟨sound_opened hdistinct session aliases faults, fun level id hget => ?_,
      fun _ _ _ _ _ hprompt => nomatch hprompt⟩
    change session.context.get level = some id at hget
    rw [hcontext] at hget
    cases level <;> exact nomatch hget
  have htracks : t.Tracks (start.taken us) := hstart.hearAll us
  exact ⟨htracks.grounded, fun u child parent hstored htakes => htracks.stored hstored htakes⟩

/-- In the tour the project takes its parent from the session, where it was offered five lines before:
the program is there when the project is stored. -/
theorem tour_parent_there :
    ∃ child, (toured.hear (.answer "due")).world.store.records =
        toured.world.store.records ++ [child] ∧
      child.parentId = some "ID0001" ∧
      ∃ r ∈ toured.world.store.records, some r.kind = child.kind.parent? ∧ r.id = "ID0001" := by
  have hlength : toured.world.store.records.length <
      (toured.hear (.answer "due")).world.store.records.length := by decide +kernel
  have htakes : toured.takes? ((opened (Store.empty (.ofQueue []) {}) {} [] fun _ => {}).taken tour)
      (.answer "due") = some "ID0001" := by decide +kernel
  obtain ⟨child, hstored⟩ :=
    ((sound_empty (.ofQueue []) {} .standard {} [] fun _ => {}).hearAll tour).exists_stored hlength
  exact ⟨child, hstored, (context_never_dangles (Store.empty (.ofQueue []) {}) {} [] (fun _ => {}) tour
    List.Pairwise.nil rfl).2 (.answer "due") child "ID0001" hstored htakes⟩

end Terminal

end TaskShell
