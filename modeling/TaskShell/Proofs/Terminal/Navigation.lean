import TaskShell.Proofs.Command.Validated
import TaskShell.Proofs.Shell.Using
import TaskShell.Proofs.Terminal.Context
import TaskShell.Proofs.Terminal.Deletion
import TaskShell.Proofs.Text.Characters

/-!
# What moves the context

Three kinds of lines move the context, and no other line does: a `use` command that points a level at
a record, a `use` command that empties a level, and a line that deletes the record which the level of
its kind points at. Commands that fail or are refused, all other commands, and all other answers leave
every level as it was.

Whether a level points at a deleted record is asked of the upper case of ids, not of the lower case
that tells records apart. On ASCII texts this is the same.

## Main definitions

* `Terminal.slot` — what a level of the context points at.
* `Terminal.Runs` — a line that runs a command.
* `Terminal.Uses`, `Terminal.Empties`, `Terminal.Forgets` — the lines that move the context.
* `Terminal.Confined` — a line moves the context only as these do.
* `Terminal.Steady` — what holds of a terminal all the time.

## Main results

* `Terminal.hear_of_runs`, `Terminal.hear_of_not_runs` — a line that runs a command, and one that is
  no answer and runs none.
* `Terminal.lasting_steady` — a steady terminal stays so, whatever happens.
* `Terminal.Steady.confined` — one line.
* `Terminal.context_confined` — every line, after any events.
-/

set_option autoImplicit false

namespace TaskShell

open Shell

namespace Terminal

variable {t t' : Terminal} {u : Utterance} {c : Command} {r : Record} {level : Level}
  {origin : Context} {deed : Deed} {outcome : LineOutcome}

/-- What a level of the context points at. -/
def slot (t : Terminal) (level : Level) : Option String :=
  t.world.session.context.get level

/-! ## Lines that run commands -/

/-- A line runs a command: no question is pending, the line is not blank and stands for the command,
nothing answers the command before validation, and it breaks no rule. -/
structure Runs (t : Terminal) (u : Utterance) (c : Command) : Prop where
  idle : t.prompt = none
  line : ∃ line, u = .command line ∧ Text.isBlankLine line = false ∧
    c = Command.parse t.aliases (Text.trim line) ∧
    builtin? (t.world.session.remember line).history c line = none
  valid : c.problem? = none

/-- The world once its session has remembered a line. -/
def remembering (t : Terminal) (line : String) : World :=
  { t.world with session := t.world.session.remember line }

/-- After a line that runs a command the session has remembered the line, and the command of its verb
has been run. -/
theorem hear_of_runs (h : t.Runs u c) :
    ∃ line, t.hear u = t.settle ((dispatch c line).perform (t.remembering line)) := by
  obtain ⟨hidle, ⟨line, rfl, hblank, rfl, hbuiltin⟩, hvalid⟩ := h
  refine ⟨line, ?_⟩
  have hrun : (run t.aliases line).perform t.world =
      (dispatch (Command.parse t.aliases (Text.trim line)) line).perform (t.remembering line) := by
    unfold run
    rw [perform_bind_of_ok (perform_modifySession _ _), perform_bind_of_ok (perform_get _)]
    dsimp only
    rw [hbuiltin]
    dsimp only
    rw [hvalid]
    rfl
  simp [hear, command, hidle, hblank, hrun]

/-- A line that is no answer and runs no command leaves the context as it was, and asks nothing. -/
theorem hear_of_not_runs (hidle : t.prompt = none) (h : ∀ c, ¬ t.Runs u c) :
    (t.hear u).world.session.context = t.world.session.context ∧ (t.hear u).prompt = none := by
  cases u with
  | answer line =>
    rw [hear, answer_of_idle hidle]
    exact ⟨rfl, hidle⟩
  | command line =>
    rw [hear]
    unfold command
    rw [hidle, if_neg (by simp)]
    split
    · exact ⟨rfl, hidle⟩
    next hblank =>
    unfold run
    rw [perform_bind_of_ok (perform_modifySession _ _), perform_bind_of_ok (perform_get _)]
    dsimp only
    split
    · exact ⟨rfl, hidle⟩
    next hbuiltin =>
    split
    · next problem _ =>
      unfold complain
      cases problem.suggestions with
      | nil => exact ⟨rfl, hidle⟩
      | cons s rest => exact ⟨rfl, hidle⟩
    next hvalid =>
    have hruns : t.Runs (.command line) (Command.parse t.aliases (Text.trim line)) :=
      ⟨hidle, ⟨line, rfl, by simpa using hblank, rfl, hbuiltin⟩, hvalid⟩
    exact absurd hruns (h _)

/-- The record that a command which is run names, where its verb acts on one, has an id that is not
empty. -/
lemma Runs.id_ne_empty (h : t.Runs u c) (hverb : c.verb.bind Verb.ofName? = some .remove)
    {records : List Record} (hnames : c.Names records r) : r.id ≠ "" := by
  obtain ⟨-, ⟨line, -, -, rfl, -⟩, hvalid⟩ := h
  obtain ⟨-, id, hid, hfound⟩ := hnames
  obtain ⟨name, hname, hremove⟩ := Option.bind_eq_some_iff.1 hverb
  obtain ⟨given, hgiven, hne⟩ := (Command.safe_parse hvalid).target "remove" (by decide)
    (by rw [hname, Verb.name_of_ofName? hremove]; rfl)
  obtain rfl : id = given := Option.some.inj (hid.symm.trans hgiven)
  intro hempty
  have hsame := ((Store.isNamed_iff _ _ _).1 (List.find?_some hfound)).2
  rw [hempty, Store.sameId, Bool.and_eq_true, beq_iff_eq, beq_iff_eq] at hsame
  exact hne (String.utf8ByteSize_eq_zero_iff.1 hsame.2.symm)

/-! ## What waits, and where levels point -/

/-- What holds of a terminal all the time: it is sound, its levels point where they did at first or at
records that are there, and a removal that waits is that of a record whose id is not empty. -/
structure Steady (origin : Context) (t : Terminal) : Prop where
  sound : t.Sound
  traced : Context.Traced origin t.world.session.context t.world.store.records
  named : ∀ q removal, t.prompt = some ⟨q, .removal removal⟩ → idOf removal.record ≠ ""

/-- A terminal is steady at the start. -/
lemma steady_opened {store : Store} (h : Store.Distinct store.records) (session : Session)
    (aliases : Entries String) (faults : Nat → Faults) :
    (opened store session aliases faults).Steady session.context :=
  ⟨sound_opened h session aliases faults, fun _ _ hget => .inl hget, fun _ _ hp => nomatch hp⟩

namespace Steady

/-- A line keeps a terminal steady.

**Proof sketch.** A removal that waits after the line waited before, or was begun by a command. That
one breaks no rule, so its id is not empty, and neither is that of the record. -/
lemma hear (h : t.Steady origin) (u : Utterance) : (t.hear u).Steady origin := by
  obtain ⟨deed, outcome, hheard, hallows⟩ := heard_hear h.sound.waits u
  refine ⟨h.sound.hear u, ?_, fun q removal hp => ?_⟩
  · rw [hheard.records, hheard.context]
    exact Deed.traced h.traced h.sound.distinct hheard.possible
  · obtain rfl : outcome = .ok (.asks q (.removal removal)) := hheard.asks hp
    unfold Allows at hallows
    cases hpending : t.prompt with
    | some p =>
      rw [hpending] at hallows
      rcases hallows with ⟨-, hsame⟩ | ⟨-, hgoes⟩
      · obtain ⟨question, next⟩ := p
        cases hsame
        exact h.named _ removal hpending
      · obtain ⟨-, -, c, c', -, hnext, -⟩ := hgoes q _ rfl
        exact nomatch hnext
    | none =>
      rw [hpending] at hallows
      cases u with
      | answer line => exact nomatch hallows.2
      | command line =>
        by_cases hruns : ∃ c, t.Runs (.command line) c
        · obtain ⟨c, hruns⟩ := hruns
          obtain ⟨line', hline, -, hparse, -⟩ := hruns.line
          obtain rfl : line = line' := Utterance.command.inj hline
          obtain ⟨-, -, verb, hverb, rfl, record, rfl, hnames⟩ := hallows.2 q _ rfl
          rw [← hparse] at hverb hnames
          exact hruns.id_ne_empty hverb hnames
        · rw [(hear_of_not_runs hpending fun c hc => hruns ⟨c, hc⟩).2] at hp
          exact nomatch hp

/-- A terminal with the records, the context and the pending question of a steady one is steady. -/
lemma congr (h : t.Steady origin) (hrecords : t'.world.store.records = t.world.store.records)
    (hcontext : t'.world.session.context = t.world.session.context)
    (hprompt : t'.prompt = t.prompt) : t'.Steady origin :=
  ⟨h.sound.congr hrecords hcontext hprompt, by rw [hrecords, hcontext]; exact h.traced,
    fun q removal hp => h.named q removal (hprompt.symm.trans hp)⟩

/-- A record stored past the terminal keeps it steady. -/
lemma put (h : t.Steady origin) (kind : String) (data : Fields) :
    (t.put kind data).2.Steady origin := by
  obtain ⟨hprompt, hcontext, hrecords⟩ := t.put_ends kind data
  refine ⟨h.sound.put kind data, ?_, fun q removal hp => h.named q removal (hprompt.symm.trans hp)⟩
  rcases hrecords with hrecords | ⟨r, -, hrecords⟩
  · rw [hcontext, hrecords]
    exact h.traced
  · rw [hcontext, hrecords]
    exact h.traced.append [r]

end Steady

/-- A steady terminal stays so, whatever happens. -/
theorem lasting_steady (origin : Context) : Lasting (Steady origin) where
  congr h hrecords hcontext _ hprompt := h.congr hrecords hcontext hprompt
  hear h := h.hear
  drop h := ⟨lasting_sound.drop h.sound, h.traced, fun _ _ hp => nomatch hp⟩
  askRefusal h message :=
    ⟨lasting_sound.askRefusal h.sound message, h.traced, fun _ _ hp => nomatch hp⟩
  put h := h.put

/-! ## Lines that move the context -/

/-- A line points a level at a record: it runs a `use` command that does. -/
def Uses (t : Terminal) (u : Utterance) (level : Level) (r : Record) : Prop :=
  ∃ c, t.Runs u c ∧ c.verb = some "use" ∧ c.Points t.world level r

/-- A line empties a level: it runs a `use` command that does. -/
def Empties (t : Terminal) (u : Utterance) (level : Level) : Prop :=
  ∃ c, t.Runs u c ∧ c.verb = some "use" ∧ c.Leaves level

/-- A level points at a record: it holds the id of the record, the case of basic letters aside. -/
def PointsAt (t : Terminal) (level : Level) (r : Record) : Prop :=
  ∃ id, t.slot level = some id ∧ Text.foldBasic id = Text.foldBasic r.id

/-- A line deletes the record that the level of its kind points at. -/
def Forgets (t : Terminal) (u : Utterance) (level : Level) (r : Record) : Prop :=
  t.Deletes u r ∧ r.kind = level.kind ∧ t.PointsAt level r

/-- A line moves the context only as lines of these three kinds do. -/
structure Confined (t : Terminal) (u : Utterance) : Prop where
  /-- The level points at the record, by the id under which it is stored, the levels inside are empty,
  and the others stay. -/
  uses : ∀ level r, t.Uses u level r → ∀ other, (t.hear u).slot other =
    if other = level then some r.id else if other ∈ level.deeper then none else t.slot other
  /-- The level is empty, and the others stay. -/
  empties : ∀ level, t.Empties u level → ∀ other, (t.hear u).slot other =
    if other = level then none else t.slot other
  /-- The level and those inside are empty, and the others stay. -/
  forgets : ∀ level r, t.Forgets u level r → ∀ other, (t.hear u).slot other =
    if other = level then none else if other ∈ level.deeper then none else t.slot other
  /-- All levels stay. -/
  keeps : (∀ level r, ¬ t.Uses u level r) → (∀ level, ¬ t.Empties u level) →
    (∀ level r, ¬ t.Forgets u level r) → ∀ level, (t.hear u).slot level = t.slot level

/-- Where a level is pointed at a record, it holds the id, and the levels inside are empty. -/
lemma get_pointed (c : Context) (level other : Level) (id : Option String) :
    ((c.set level id).clearDeeper level).get other =
      if other = level then id else if other ∈ level.deeper then none else c.get other := by
  cases level <;> cases other <;> rfl

/-- What a line does to the context that runs a `use` command. -/
lemma Sound.context_of_use (h : t.Sound) (hruns : t.Runs u c) (hverb : c.verb = some "use") :
    (∀ level r, c.Points t.world level r → (t.hear u).world.session.context =
      (t.world.session.context.set level (some r.id)).clearDeeper level) ∧
    (∀ level, c.Leaves level → (t.hear u).world.session.context =
      t.world.session.context.set level none) ∧
    ((∀ level r, ¬ c.Points t.world level r) → (∀ level, ¬ c.Leaves level) →
      (t.hear u).world.session.context = t.world.session.context) := by
  obtain ⟨line, hhear⟩ := hear_of_runs hruns
  have hcontext : (t.hear u).world.session.context =
      ((use c).perform (t.remembering line)).2.session.context := by
    have hdispatch : dispatch c line = do return Function.const Unit .finished (← use c) := by
      unfold dispatch
      rw [hverb]
      rfl
    rw [hhear, hdispatch, perform_map]
    rfl
  have hpoints : ∀ level r, c.Points (t.remembering line) level r ↔ c.Points t.world level r :=
    fun _ _ => Command.points_session _
  refine ⟨fun level r hpointed => ?_, fun level hleaves => ?_, fun hnone hleaves => ?_⟩
  · rw [hcontext, perform_use_of_points (w := t.remembering line) h.distinct
      ((hpoints level r).2 hpointed)]
    rfl
  · rw [hcontext, perform_use_of_leaves hleaves]
    rfl
  · have hforgoes : Forgoes (t.remembering line) (use c) :=
      forgoes_use h.distinct (fun level r hpointed => hnone level r ((hpoints level r).1 hpointed))
        hleaves
    obtain ⟨_, _, _, _, hrun, -⟩ := hforgoes
    rw [hcontext, hrun]
    rfl

/-- On ASCII texts, the ids of a level and of a record are equal in upper case just if the level
points at the record. -/
lemma pointsAt_iff (hslot : ∀ id, t.slot level = some id → Text.IsAscii id)
    (hid : Text.IsAscii r.id) (hne : r.id ≠ "") :
    Text.upper ((t.slot level).getD "") = Text.upper r.id ↔ t.PointsAt level r := by
  unfold PointsAt
  cases hget : t.slot level with
  | none =>
    have hempty : Text.IsAscii "" := fun _ hc => nomatch hc
    rw [Option.getD_none, Text.upper_eq_upper_iff hempty hid]
    refine ⟨fun hfold => ?_, fun ⟨_, hsome, _⟩ => nomatch hsome⟩
    have hnil : r.id.toList = [] := List.map_eq_nil_iff.1 hfold.symm
    exact absurd (String.toList_eq_nil_iff.1 hnil) hne
  | some id =>
    rw [Option.getD_some, Text.upper_eq_upper_iff (hslot id hget) hid]
    simp

/-- The context without a record that the level of its kind points at, or does not. -/
lemma contextWithout_eq (hkind : r.kind = level.kind) (c : Context) :
    Deed.contextWithout c r =
      if Text.upper ((c.get level).getD "") = Text.upper r.id then (c.set level none).clearDeeper level
      else c := by
  unfold Deed.contextWithout
  rw [hkind, Level.ofName?_name]

/-- A removal leaves the context alone if the level of the record's kind does not point at it. -/
lemma contextWithout_of_not_pointsAt (hslots : ∀ level id, t.slot level = some id → Text.IsAscii id)
    (hid : Text.IsAscii r.id) (hne : r.id ≠ "")
    (hkept : ∀ level, r.kind = level.kind → ¬ t.PointsAt level r) :
    Deed.contextWithout t.world.session.context r = t.world.session.context := by
  cases hlevel : Level.ofName? r.kind.name with
  | none => simp [Deed.contextWithout, hlevel]
  | some level =>
    have hkind : r.kind = level.kind := kind_eq_of_name_eq (name_of_ofName? hlevel).symm
    rw [contextWithout_eq hkind, if_neg]
    exact fun hupper => hkept level hkind ((pointsAt_iff (hslots level) hid hne).1 hupper)

/-- In a steady terminal whose records have ASCII ids, and which began with such ids in its levels,
all levels hold ASCII ids. -/
lemma Steady.isAscii (h : t.Steady origin) (horigin : ∀ level id, origin.get level = some id →
    Text.IsAscii id) (hrecords : ∀ r ∈ t.world.store.records, Text.IsAscii r.id) (level : Level)
    (id : String) (hslot : t.slot level = some id) : Text.IsAscii id := by
  rcases h.traced level id hslot with hfirst | ⟨r, hr, -, rfl⟩
  · exact horigin level id hfirst
  · exact hrecords r hr

/-- A line leaves the context alone, or deletes a record whose id is not empty, or runs a `use`
command. -/
lemma Steady.cases_hear (h : t.Steady origin) (u : Utterance) :
    (t.hear u).world.session.context = t.world.session.context ∨
      (∃ r, r.id ≠ "" ∧ t.Deletes u r ∧ (t.hear u).world.session.context =
        Deed.contextWithout t.world.session.context r) ∨
      ∃ c, t.Runs u c ∧ c.verb = some "use" := by
  obtain ⟨deed, outcome, hheard, hallows⟩ := heard_hear h.sound.waits u
  have hcontext := hheard.context
  unfold Allows at hallows
  cases hp : t.prompt with
  | some p =>
    rw [hp] at hallows
    rcases hallows with ⟨rfl, -⟩ | ⟨howns, -⟩
    · exact .inl hcontext
    rcases howns with rfl | howned
    · exact .inl hcontext
    obtain ⟨q, next⟩ := p
    cases next with
    | creation creation =>
      obtain ⟨fields, r, rfl, -⟩ := howned
      exact .inl hcontext
    | removal removal =>
      obtain ⟨r, hof, rfl, -⟩ := howned
      have hne : r.id ≠ "" := by
        have hnamed := h.named q removal hp
        rwa [hof] at hnamed
      exact .inr (.inl ⟨r, hne, hheard.deletes, hcontext⟩)
    | refusal message => exact howned.elim
  | none =>
    by_cases hruns : ∃ c, t.Runs u c
    · obtain ⟨c, hruns⟩ := hruns
      obtain ⟨line, rfl, -, hparse, -⟩ := hruns.line
      rw [hp] at hallows
      rcases hallows.1 with rfl | ⟨verb, hverb, horders⟩
      · exact .inl hcontext
      rw [← hparse] at hverb horders
      cases deed with
      | nothing | created | updated => exact .inl hcontext
      | removed r =>
        obtain ⟨rfl, hnames, -⟩ := horders
        exact .inr (.inl ⟨r, hruns.id_ne_empty hverb hnames, hheard.deletes, hcontext⟩)
      | pointed | emptied =>
        obtain ⟨name, hname, huse⟩ := Option.bind_eq_some_iff.1 hverb
        rw [horders.1] at huse
        exact .inr (.inr ⟨c, hruns, by rw [hname, Verb.name_of_ofName? huse]; rfl⟩)
    · exact .inl (hear_of_not_runs hp fun c hc => hruns ⟨c, hc⟩).1

/-- **One line.** In a steady terminal whose records have ASCII ids, and which began with such ids in
its levels, a line moves the context only by pointing a level at a record, by emptying one, or by
deleting the record that the level of its kind points at.

**Proof sketch.** A `use` command that is run does what `use` does, which either points a level,
empties one, or changes nothing. Of all other deeds only removals touch the context. They compare the
upper case of two ids, which are ASCII, and that of the record is not empty. -/
theorem Steady.confined (h : t.Steady origin) (horigin : ∀ level id, origin.get level = some id →
    Text.IsAscii id) (hrecords : ∀ r ∈ t.world.store.records, Text.IsAscii r.id) (u : Utterance) :
    t.Confined u := by
  have hslots := h.isAscii horigin hrecords
  refine ⟨fun level r huses other => ?_, fun level hempties other => ?_,
    fun level r hforgets other => ?_, fun huses hempties hforgets level => ?_⟩
  · obtain ⟨c, hruns, hverb, hpoints⟩ := huses
    rw [slot, (h.sound.context_of_use hruns hverb).1 level r hpoints, get_pointed]
    rfl
  · obtain ⟨c, hruns, hverb, hleaves⟩ := hempties
    rw [slot, (h.sound.context_of_use hruns hverb).2.1 level hleaves, Context.get_set]
    simp only [eq_comm]
    rfl
  · obtain ⟨hdeletes, hkind, hpoints⟩ := hforgets
    obtain ⟨outcome, hheard, -⟩ := h.sound.removes hdeletes
    obtain ⟨id, hslot, hfold⟩ := hpoints
    have hupper : Text.upper ((t.world.session.context.get level).getD "") = Text.upper r.id := by
      rw [show t.world.session.context.get level = some id from hslot, Option.getD_some]
      exact (Text.upper_eq_upper_iff (hslots level id hslot) (hrecords r hdeletes.1)).2 hfold
    rw [slot, hheard.context, Deed.context, contextWithout_eq hkind, if_pos hupper, get_pointed]
    rfl
  · refine congrArg (fun context => Context.get context level) ?_
    rcases h.cases_hear u with hsame | ⟨r, hne, hdeletes, hremoved⟩ | ⟨c, hruns, hverb⟩
    · exact hsame
    · rw [hremoved]
      exact contextWithout_of_not_pointsAt hslots (hrecords r hdeletes.1) hne
        fun level hkind hpoints => hforgets level r ⟨hdeletes, hkind, hpoints⟩
    · exact (h.sound.context_of_use hruns hverb).2.2
        (fun level r hpoints => huses level r ⟨c, hruns, hverb, hpoints⟩)
        fun level hleaves => hempties level ⟨c, hruns, hverb, hleaves⟩

/-! ## Runs -/

/-- In a steady terminal that began with an empty context, a level points at a record that is there
just by its id as it is stored, and the record is of the kind of the level. -/
lemma Steady.slot_of_pointsAt (h : t.Steady {}) (hr : r ∈ t.world.store.records)
    (hpoints : t.PointsAt level r) : t.slot level = some r.id ∧ r.kind = level.kind := by
  obtain ⟨id, hslot, hfold⟩ := hpoints
  obtain ⟨q, hq, hkind, rfl⟩ := Context.traced_empty_iff.1 h.traced level id hslot
  obtain rfl : q = r := h.sound.distinct.eq_of_sameId hq hr (Store.sameId_of_foldBasic hfold)
  exact ⟨hslot, hkind⟩

/-- A complete line is dropped, or it is heard as a command or an answer. -/
lemma submit_eq_hear (t : Terminal) (line : String) : (t.submit line).1.world = t.world ∨
    ∃ u : Utterance, u.line = line ∧ (t.submit line).1.world = (t.hear u).world := by
  unfold submit
  split
  · exact .inr ⟨.answer line, rfl, rfl⟩
  split
  · exact .inl rfl
  · exact .inr ⟨.command line, rfl, rfl⟩

/-- **Moves of the context are confined.** From a store whose records have ids of their own, as the key
of their table demands, with any session whose levels hold ASCII ids, any aliases and any faults met by
any calls, after any events that leave only records with ASCII ids, for every line:

* if it runs a `use` command for a record of the kind of a level, and neither of the calls that find
  the record is refused, the level holds the id under which the record is stored, however its letters
  are cased on the line; the levels inside are empty and the others as before;
* if it runs a `use` command for a level without an id, this level is empty and the others as before;
* if it deletes the record that the level of its kind points at, this level and those inside are empty
  and the others as before;
* otherwise all levels are as before.

A level points at a record by its id, the case of letters aside; if the session began with no context,
then by the id as it is stored. A line that is submitted is heard as a command or as an answer, or it
is dropped.

**Proof sketch.** The terminal stays steady: its levels hold what they held at first or the ids of
records that are there, so all of them are ASCII, and a removal that waits has an id. The rest is
about one line. -/
theorem context_confined (store : Store) (session : Session) (aliases : Entries String)
    (faults : Nat → Faults) (events : List Event) (hdistinct : Store.Distinct store.records)
    (hsession : ∀ level id, session.context.get level = some id → Text.IsAscii id) :
    let t := (opened store session aliases faults).after events
    (∀ r ∈ t.world.store.records, Text.IsAscii r.id) →
    (∀ u, t.Confined u) ∧
      (session.context = {} → ∀ level, ∀ r ∈ t.world.store.records, t.PointsAt level r →
        t.slot level = some r.id ∧ r.kind = level.kind) ∧
      ∀ line, (t.submit line).1.world = t.world ∨
        ∃ u : Utterance, u.line = line ∧ (t.submit line).1.world = (t.hear u).world := by
  intro t hrecords
  have hsteady : t.Steady session.context :=
    (lasting_steady _).after (steady_opened hdistinct session aliases faults) events
  refine ⟨hsteady.confined hsession hrecords, fun hempty level r hr hpoints => ?_,
    t.submit_eq_hear⟩
  rw [hempty] at hsteady
  exact hsteady.slot_of_pointsAt hr hpoints

/-- A program and a project in it are used; then the program is removed, by its id in small letters, and
both levels are empty. -/
theorem context_confined_apollo :
    let t := (opened (Store.empty (.ofQueue []) {}) {} [] fun _ => {}).after
      [.command "create program Apollo", .command "create project Lander parent:id0001",
        .feed "use program id0001\ruse project id0002\r"]
    let u : Utterance := .command "rm program id0001 --force"
    t.slot .project = some "ID0002" ∧ (∃ r, t.Forgets u .program r) ∧
      ∀ level, (t.hear u).slot level = none := by
  intro t u
  have hslots : (t.slot .program, t.slot .project) = (some "ID0001", some "ID0002") := by
    decide +kernel
  obtain ⟨hprogram, hproject⟩ := Prod.mk.inj hslots
  have hbefore : t.world.store.records.map (fun r => (r.kind, r.id)) =
      [(.program, "ID0001"), (.project, "ID0002")] := by decide +kernel
  have hafter : (t.hear u).world.store.records.map (fun r => (r.kind, r.id)) =
      [(.project, "ID0002")] := by decide +kernel
  obtain ⟨hconfined, -, -⟩ := context_confined (Store.empty (.ofQueue []) {}) {} [] (fun _ => {})
    [.command "create program Apollo", .command "create project Lander parent:id0001",
      .feed "use program id0001\ruse project id0002\r"]
    List.Pairwise.nil (fun level _ hget => by cases level <;> exact nomatch hget)
    (by decide +kernel)
  obtain ⟨r, rest, hrecords, hr, -⟩ := List.map_eq_cons_iff.1 hbefore
  obtain ⟨hkind, hid⟩ := Prod.mk.inj hr
  have hdeletes : t.Deletes u r := by
    refine ⟨by rw [hrecords]; exact List.mem_cons_self, fun q hq hsame => ?_⟩
    have hmem : (q.kind, q.id) ∈ [(Entity.project, "ID0002")] := hafter ▸ List.mem_map_of_mem hq
    rw [hsame.1, hsame.2, hkind, hid] at hmem
    exact absurd hmem (by decide)
  have hpoints : t.PointsAt .program r := ⟨"ID0001", hprogram, by rw [hid]⟩
  have hforgets : t.Forgets u .program r := ⟨hdeletes, hkind, hpoints⟩
  refine ⟨hproject, ⟨r, hforgets⟩, fun level => ?_⟩
  rw [(hconfined u).forgets .program r hforgets level]
  cases level <;> rfl

end Terminal

end TaskShell
