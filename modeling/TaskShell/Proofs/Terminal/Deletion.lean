import TaskShell.Proofs.Terminal.Run

/-!
# Deletions

A record goes away on one of two lines: a `remove` command that names it and is forced, or a yes to
the question that a `remove` command which names it has asked on the line before. Any other answer
to that question leaves the store alone and ends the dialog, and other records stay.

## Main definitions

* `Command.Removes`, `Command.IsForced` — a command that names a record to remove, at once.
* `Terminal.Deletes` — a line after which a record is gone.
* `Terminal.Forces`, `Terminal.HasAsked` — the two ways for a record to go.

## Main results

* `Terminal.Sound.deletes` — one line: what it takes to delete a record.
* `Terminal.Sound.asked` — a removal that waits has been asked for on the last line.
* `Terminal.deletion_deliberate` — both, over runs.
-/

set_option autoImplicit false

namespace TaskShell

open Shell

/-! ## Commands that remove -/

/-- A command removes a record: it names the kind of the record, and its id, the case of basic
letters aside. -/
structure Command.Removes (c : Command) (r : Record) : Prop where
  verb : c.verb = some "remove"
  entity : c.entity = some r.kind.name
  id : ∃ id, c.recordId? = some id ∧ (c.target = some id ∨ c.flags.value? "id" = some id) ∧
    Store.sameId r.id id = true ∧
    ('\x00' ∉ r.id.toList → Text.foldBasic id = Text.foldBasic r.id)

/-- A command carries a flag that forces it, with a value that is not empty. -/
def Command.IsForced (c : Command) : Prop :=
  ∃ value, value ≠ "" ∧ (c.flags.value? "force" = some value ∨ c.flags.value? "yes" = some value)

/-- The question whether a record is to be removed. -/
def Record.removalText (r : Record) : String :=
  "Remove " ++ r.kind.name ++ " " ++ r.id ++ " \"" ++ r.title ++ "\"? (y/N)"

/-- A `remove` command removes the record that it names. -/
lemma Command.Names.removes {c : Command} {records : List Record} {r : Record}
    (h : c.Names records r) (hverb : c.verb.bind Verb.ofName? = some .remove) : c.Removes r := by
  obtain ⟨hentity, id, hid, hfound⟩ := h
  obtain ⟨name, hname, hremove⟩ := Option.bind_eq_some_iff.1 hverb
  have hsame := ((Store.isNamed_iff _ _ _).1 (List.find?_some hfound)).2
  refine ⟨?_, hentity, id, hid, ?_, hsame, Store.foldBasic_eq_of_sameId hsame⟩
  · rw [hname, Verb.name_of_ofName? hremove]
    rfl
  · unfold recordId? nonEmpty? at hid
    rcases Option.or_eq_some_iff.1 hid with htarget | ⟨-, hflag⟩
    · exact .inl (Option.filter_eq_some_iff.1 htarget).1
    · exact .inr hflag

/-- A forced command has a flag that forces it. -/
lemma Command.isForced_of_flag? {c : Command} (h : (c.flag? ["force", "yes"]).isSome) :
    c.IsForced := by
  obtain ⟨value, hvalue⟩ := Option.isSome_iff_exists.1 h
  obtain ⟨name, hname, hflag⟩ := List.exists_of_findSome?_eq_some hvalue
  obtain ⟨hfound, hne⟩ := Option.filter_eq_some_iff.1 hflag
  refine ⟨value, by simpa using hne, ?_⟩
  simp only [List.mem_cons, List.not_mem_nil, or_false] at hname
  rcases hname with rfl | rfl
  · exact .inl hfound
  · exact .inr hfound

/-! ## Deeds that delete -/

/-- Among distinct records, a possible deed after which a record is gone has removed it. -/
lemma Deed.eq_removed {deed : Deed} {records : List Record} (h : Store.Distinct records)
    (hpossible : deed.Possible records) {r : Record} (hr : r ∈ records)
    (hgone : ∀ q ∈ deed.records records, ¬ (q.kind = r.kind ∧ q.id = r.id)) :
    deed = .removed r := by
  cases deed with
  | created values fields new => exact absurd ⟨rfl, rfl⟩ (hgone r (List.mem_append_left _ hr))
  | updated changes former new =>
    obtain ⟨hformer, hmerged, -⟩ := hpossible
    refine absurd ?_ (hgone _ (List.mem_map_of_mem hr))
    split
    · next hnamed =>
      have hsame := ((Store.isNamed_iff _ _ _).1 hnamed).2
      rw [hmerged.id_eq] at hsame
      rw [h.eq_of_sameId hr hformer hsame, hmerged.kind_eq, hmerged.id_eq]
      exact ⟨rfl, rfl⟩
    · exact ⟨rfl, rfl⟩
  | removed q =>
    have hnamed : Store.isNamed q.kind q.id r = true := by
      by_contra hnot
      exact hgone r (List.mem_filter.2 ⟨hr, by simpa using hnot⟩) ⟨rfl, rfl⟩
    rw [h.eq_of_sameId hr hpossible ((Store.isNamed_iff _ _ _).1 hnamed).2]
  | nothing => exact absurd ⟨rfl, rfl⟩ (hgone r hr)
  | pointed level new => exact absurd ⟨rfl, rfl⟩ (hgone r hr)
  | emptied level => exact absurd ⟨rfl, rfl⟩ (hgone r hr)

/-- Removing one of several distinct records leaves the others. -/
lemma Store.Distinct.mem_erased {records : List Record} (h : Store.Distinct records)
    {q r : Record} (hr : r ∈ records) (hq : q ∈ records) (hne : q ≠ r) :
    q ∈ Store.erased records r := by
  refine List.mem_filter.2 ⟨hq, ?_⟩
  have hsame : Store.sameId q.id r.id = false := by
    by_contra hsame
    exact hne (h.eq_of_sameId hq hr (by simpa using hsame))
  rw [Store.isNamed_eq_false hsame]
  rfl

/-- Among distinct records a removal is that of one. -/
lemma Removal.IsOf.unique {removal : Removal} {records : List Record} (h : Store.Distinct records)
    {q r : Record} (hq : removal.IsOf q) (hr : removal.IsOf r) (hqmem : q ∈ records)
    (hrmem : r ∈ records) : q = r := by
  have hid : q.id = r.id := by
    rw [← idOf_fields q, ← idOf_fields r]
    exact congrArg (fun s : Removal => idOf s.record) (hq.symm.trans hr)
  exact h.eq_of_sameId hqmem hrmem (by rw [hid]; exact Store.sameId_self _)

/-- The question of a removal is about its record, and it need not be answered. -/
lemma Removal.IsOf.question {removal : Removal} {r : Record} (h : removal.IsOf r) :
    removal.question = { text := r.removalText } := by
  rw [h]
  rfl

namespace Terminal

variable {start t : Terminal} {us : List Utterance} {u : Utterance} {r : Record}

/-! ## Lines that delete -/

/-- A line deletes a record: the record is there, and after the line none of its kind has its id. -/
def Deletes (t : Terminal) (u : Utterance) (r : Record) : Prop :=
  r ∈ t.world.store.records ∧
    ∀ q ∈ (t.hear u).world.store.records, ¬ (q.kind = r.kind ∧ q.id = r.id)

/-- A line is a command that removes a record at once. -/
def Forces (t : Terminal) (u : Utterance) (r : Record) : Prop :=
  t.prompt = none ∧ ∃ line, u = .command line ∧
    (Command.parse t.aliases (Text.trim line)).Removes r ∧
    (Command.parse t.aliases (Text.trim line)).IsForced

/-- The last of some lines was a command that removes a record, and its question is pending. -/
def HasAsked (start : Terminal) (us : List Utterance) (r : Record) : Prop :=
  ∃ before line next, us = before ++ [.command line] ∧
    (start.hearAll before).prompt = none ∧
    r ∈ (start.hearAll before).world.store.records ∧
    (Command.parse (start.hearAll before).aliases (Text.trim line)).Removes r ∧
    (start.hearAll us).prompt = some ⟨{ text := r.removalText }, next⟩

/-- A line says yes. -/
def SaysYes (u : Utterance) : Prop :=
  Text.lower (Text.trim u.line) ∈ ["y", "yes"]

instance (u : Utterance) : Decidable (SaysYes u) :=
  inferInstanceAs (Decidable (_ ∈ _))

/-- The terminal after one more line. -/
lemma hearAll_concat (start : Terminal) (us : List Utterance) (u : Utterance) :
    start.hearAll (us ++ [u]) = (start.hearAll us).hear u := by
  simp [hearAll]

/-! ## Pending removals -/

/-- Any line is an answer to a removal that waits, as its question need not be answered. -/
lemma Waits.hear_removal {q : Question} {removal : Removal} (h : t.Waits)
    (hp : t.prompt = some ⟨q, .removal removal⟩) (u : Utterance) :
    t.hear u = { t with prompt := none }.settle
      ((resume (.removal removal) (Text.trim u.line)).perform t.world) := by
  have hoptional : q.required = false := congrArg Question.required (h _ hp).1
  have hanswer : ∀ line, (t.answer line).1 = { t with prompt := none }.settle
      ((resume (.removal removal) (Text.trim line)).perform t.world) := by
    intro line
    rw [answer_of_accepted hp (by simp [hoptional])]
  cases u with
  | command line =>
    have hcommand : t.command line = (t.answer line).1 := by simp [command, hp]
    rw [hear, hcommand]
    exact hanswer line
  | answer line => exact hanswer line

/-- Whatever is heard, a removal does not wait any longer. -/
lemma Waits.prompt_of_removal {q : Question} {removal : Removal} (h : t.Waits)
    (hp : t.prompt = some ⟨q, .removal removal⟩) (u : Utterance) : (t.hear u).prompt = none := by
  rw [h.hear_removal hp, resume]
  rcases perform_bind_cases (removal.resume (Text.trim u.line)) (fun _ => pure Progress.finished)
    t.world with ⟨_, w, -, hrun⟩ | ⟨e, w, -, hrun⟩
  · rw [hrun]
    rfl
  · rw [hrun]
    rfl

/-- Unless the answer is a yes, it leaves the store alone. -/
lemma Waits.store_of_removal {q : Question} {removal : Removal} (h : t.Waits)
    (hp : t.prompt = some ⟨q, .removal removal⟩) (hno : ¬ SaysYes u) :
    (t.hear u).world.store = t.world.store := by
  have hresume : removal.resume (Text.trim u.line) = say "Cancelled." :=
    if_neg (by simpa [SaysYes] using hno)
  rw [h.hear_removal hp, resume, hresume, perform_say_bind]
  rfl

/-- A removal that waits was begun by the last line, which was a command, and which left the records
as they were. -/
theorem Sound.asked {q : Question} {removal : Removal} (h : start.Sound)
    (hidle : start.prompt = none)
    (hp : (start.hearAll us).prompt = some ⟨q, .removal removal⟩) :
    ∃ before line, us = before ++ [.command line] ∧ (start.hearAll before).prompt = none ∧
      (start.hearAll us).world.store.records = (start.hearAll before).world.store.records ∧
      q = removal.question ∧
      (Command.parse (start.hearAll before).aliases (Text.trim line)).verb.bind Verb.ofName? =
        some .remove ∧
      removal.Begins (start.hearAll before).world.store.records
        (Command.parse (start.hearAll before).aliases (Text.trim line)) := by
  rcases List.eq_nil_or_concat us with rfl | ⟨before, u, rfl⟩
  · exact nomatch hidle.symm.trans hp
  have hbefore := h.hearAll before
  rw [List.concat_eq_append, hearAll_concat] at hp ⊢
  obtain ⟨deed, outcome, hheard, hallows⟩ := heard_hear hbefore.waits u
  obtain rfl : outcome = .ok (.asks q (.removal removal)) := hheard.asks hp
  unfold Allows at hallows
  cases hpending : (start.hearAll before).prompt with
  | some p =>
    rw [hpending] at hallows
    rcases hallows with ⟨-, hsame⟩ | ⟨-, hgoes⟩
    · -- a removal that waited already has been answered by now
      obtain ⟨q', next⟩ := p
      cases hsame
      rw [hbefore.waits.prompt_of_removal hpending u] at hp
      exact nomatch hp
    · obtain ⟨-, -, c, c', -, hnext, -⟩ := hgoes q _ rfl
      exact nomatch hnext
  | none =>
    rw [hpending] at hallows
    cases u with
    | command line =>
      obtain ⟨hdeed, hq, verb, hverb, rfl, hbegins⟩ := hallows.2 q _ rfl
      refine ⟨before, line, rfl, hpending, ?_, hq, hverb, hbegins⟩
      rw [hheard.records, hdeed]
      rfl
    | answer line => exact nomatch hallows.2

/-! ## Deliberate deletions -/

/-- A line that deletes a record does the deed of removing it. -/
lemma Sound.removes (h : t.Sound) (hdeletes : t.Deletes u r) :
    ∃ outcome, Heard t (t.hear u) (.removed r) outcome ∧ t.Allows u (.removed r) outcome := by
  obtain ⟨hr, hgone⟩ := hdeletes
  obtain ⟨deed, outcome, hheard, hallows⟩ := heard_hear h.waits u
  rw [hheard.records] at hgone
  obtain rfl := Deed.eq_removed h.distinct hheard.possible hr hgone
  exact ⟨outcome, hheard, hallows⟩

/-- A line that does the deed of removing a record deletes it. -/
lemma Heard.deletes {outcome : LineOutcome} (h : Heard t (t.hear u) (.removed r) outcome) :
    t.Deletes u r := by
  refine ⟨h.possible, fun q hq ⟨hkind, hid⟩ => ?_⟩
  rw [h.records] at hq
  have hnamed : Store.isNamed r.kind r.id q = true :=
    (Store.isNamed_iff _ _ _).2 ⟨hkind, by rw [hid]; exact Store.sameId_self _⟩
  have hkept := (List.mem_filter.1 hq).2
  rw [hnamed] at hkept
  exact nomatch hkept

/-- A line that deletes a record removes it and no other: as a forced command, or as a yes while the
removal of the record waits. -/
theorem Sound.deletes (h : t.Sound) (hdeletes : t.Deletes u r) :
    (t.hear u).world.store.records = Store.erased t.world.store.records r ∧
      (t.Forces u r ∨ SaysYes u ∧
        ∃ q removal, t.prompt = some ⟨q, .removal removal⟩ ∧ removal.IsOf r) := by
  obtain ⟨outcome, hheard, hallows⟩ := h.removes hdeletes
  refine ⟨hheard.records, ?_⟩
  unfold Allows at hallows
  cases hp : t.prompt with
  | some p =>
    rw [hp] at hallows
    rcases hallows with ⟨hdeed, -⟩ | ⟨howns, -⟩
    · exact nomatch hdeed
    have howned := howns.resolve_left nofun
    obtain ⟨q, next⟩ := p
    cases next with
    | creation c =>
      obtain ⟨fields, new, hdeed, -⟩ := howned
      exact nomatch hdeed
    | removal removal =>
      obtain ⟨record, hof, hdeed, hyes⟩ := howned
      cases hdeed
      exact .inr ⟨by simpa [SaysYes] using hyes, q, removal, rfl, hof⟩
    | refusal message => exact howned.elim
  | none =>
    rw [hp] at hallows
    cases u with
    | command line =>
      obtain ⟨verb, hverb, rfl, hnames, hforced⟩ := hallows.1.resolve_left nofun
      exact .inl ⟨hp, line, rfl, hnames.removes hverb, Command.isForced_of_flag? hforced⟩
    | answer line => exact nomatch hallows.1

/-- The removal of a record that is there waits only if a command that removes the record has asked
about it. -/
lemma Sound.hasAsked {q : Question} {removal : Removal} (h : start.Sound)
    (hidle : start.prompt = none)
    (hp : (start.hearAll us).prompt = some ⟨q, .removal removal⟩) (hof : removal.IsOf r)
    (hr : r ∈ (start.hearAll us).world.store.records) : start.HasAsked us r := by
  obtain ⟨before, line, hus, hbefore, hsame, hq, hverb, record, hrecord, hnames⟩ := h.asked hidle hp
  rw [hsame] at hr
  obtain rfl : record = r := by
    obtain ⟨-, id, -, hfound⟩ := hnames
    exact hrecord.unique (h.hearAll before).distinct hof (List.mem_of_find?_eq_some hfound) hr
  rw [hq, hof.question] at hp
  exact ⟨before, line, _, hus, hbefore, hr, hnames.removes hverb, hp⟩

/-- What a command that removes a record has asked about waits as a removal. -/
lemma Sound.removal_of_hasAsked (h : start.Sound) (hasked : start.HasAsked us r) :
    ∃ q removal, (start.hearAll us).prompt = some ⟨q, .removal removal⟩ := by
  obtain ⟨before, line, next, rfl, hidle, -, hremoves, hp⟩ := hasked
  rw [hearAll_concat] at hp ⊢
  obtain ⟨deed, outcome, hheard, hallows⟩ := heard_hear (h.hearAll before).waits (.command line)
  unfold Allows at hallows
  rw [hidle] at hallows
  obtain ⟨-, -, verb, hverb, hbegins⟩ := hallows.2 _ _ (hheard.asks hp)
  rw [hremoves.verb] at hverb
  obtain rfl : Verb.remove = verb := Option.some.inj hverb
  cases next with
  | creation c => exact nomatch hbegins.1
  | removal removal => exact ⟨_, removal, hp⟩
  | refusal message => exact hbegins.elim

/-- **Records are deleted deliberately.** From a store whose records have ids of their own, as the
key of their table demands, with any session, any aliases and any faults met by any calls, after any
commands and answers: a line that deletes a record is a forced command that removes it, or says yes
to the question that a command which removes it has asked on the line before, and it leaves all other
records there. A line that does not say yes to such a question leaves the whole store alone, and no
question is pending after it.

**Proof sketch.** The terminal stays sound, so a deletion is the deed of a line, which only a forced
command or a removal that waits can do. A removal was begun by a command that names its record; as
any line is an answer to it, that command stands right before. -/
theorem deletion_deliberate (store : Store) (session : Session) (aliases : Entries String)
    (faults : Nat → Faults) (us : List Utterance) (hdistinct : Store.Distinct store.records) :
    let start := opened store session aliases faults
    let t := start.hearAll us
    (∀ u r, t.Deletes u r →
      (t.Forces u r ∨ SaysYes u ∧ start.HasAsked us r) ∧
        ∀ q ∈ t.world.store.records, q ≠ r → q ∈ (t.hear u).world.store.records) ∧
      ∀ u r, start.HasAsked us r → ¬ SaysYes u →
        (t.hear u).prompt = none ∧ (t.hear u).world.store = t.world.store := by
  intro start t
  have hstart : start.Sound := sound_opened hdistinct session aliases faults
  have hsound : t.Sound := hstart.hearAll us
  refine ⟨fun u r hdeletes => ?_, fun u r hasked hno => ?_⟩
  · obtain ⟨hrecords, hway⟩ := hsound.deletes hdeletes
    constructor
    · rcases hway with hforces | ⟨hyes, q, removal, hp, hof⟩
      · exact .inl hforces
      · exact .inr ⟨hyes, hstart.hasAsked rfl hp hof hdeletes.1⟩
    · intro q hq hne
      rw [hrecords]
      exact hsound.distinct.mem_erased hdeletes.1 hq hne
  · obtain ⟨q, removal, hp⟩ := hstart.removal_of_hasAsked hasked
    exact ⟨hsound.waits.prompt_of_removal hp u, hsound.waits.store_of_removal hp hno⟩

/-- The lines that create a program and ask to remove it, by another word for `remove` and another
spelling of the id. -/
def farewell : List Utterance :=
  [.command "create program Apollo", .command "rm program id0001"]

/-- A terminal after these lines. -/
def parted : Terminal :=
  (opened (Store.empty (.ofQueue []) {}) {} [] fun _ => {}).hearAll farewell

/-- A yes then deletes the program, which the last of these lines has asked about, and a no would have
left the store alone. -/
theorem parted_deliberate :
    ∃ r, parted.Deletes (.answer " YES ") r ∧
      (opened (Store.empty (.ofQueue []) {}) {} [] fun _ => {}).HasAsked farewell r ∧
      (parted.hear (.answer "n")).prompt = none ∧
      (parted.hear (.answer "n")).world.store = parted.world.store := by
  have hbefore : parted.world.store.records.length = 1 := by decide +kernel
  have hafter : (parted.hear (.answer " YES ")).world.store.records.length = 0 := by
    decide +kernel
  have hpending : ¬ parted.prompt.isNone := by decide +kernel
  obtain ⟨r, hr⟩ := List.length_eq_one_iff.1 hbefore
  have hdeletes : parted.Deletes (.answer " YES ") r := by
    refine ⟨by rw [hr]; exact List.mem_singleton_self r, ?_⟩
    rw [List.length_eq_zero_iff.1 hafter]
    exact List.forall_mem_nil _
  unfold parted at hdeletes hpending ⊢
  obtain ⟨hway, hkeeps⟩ := deletion_deliberate (Store.empty (.ofQueue []) {}) {} [] (fun _ => {})
    farewell List.Pairwise.nil
  rcases (hway _ r hdeletes).1 with ⟨hidle, -⟩ | ⟨-, hasked⟩
  · exact absurd (Option.isNone_iff_eq_none.2 hidle) hpending
  · have hno : ¬ SaysYes (.answer "n") := by decide +kernel
    exact ⟨r, hdeletes, hasked, hkeeps _ r hasked hno⟩

end Terminal

end TaskShell
