import TaskShell.Proofs.Shell.Running
import TaskShell.Terminal

/-!
# A terminal hears a line

A line reaches a terminal as a command or as an answer. It does at most one deed, writes what the
deed reports, and ends in one of three ways: nothing more is asked, a question is asked, or a
failure is reported and no question is left. Which deeds and questions are possible depends on the
pending question, or on the command if there is none.

## Main definitions

* `Utterance`, `Terminal.hear` — a line as a command or as an answer.
* `LineOutcome`, `Terminal.closing` — how a line ends, and what the journal keeps of the end.
* `Terminal.Heard` — a terminal after a line.
* `Terminal.Allows` — what a line can come to.
* `Terminal.Waits` — what holds of the pending question.

## Main results

* `Terminal.heard_hear` — what a terminal does when it hears a line.
* `Terminal.Heard.waits` — the pending question is again that of an activity that fits.
-/

set_option autoImplicit false

namespace TaskShell

open Shell

/-- A line that reaches a terminal, as a command or as an answer. -/
inductive Utterance
  | command (line : String)
  | answer (line : String)
  deriving DecidableEq, Repr

/-- The line itself. -/
def Utterance.line : Utterance → String
  | .command line => line
  | .answer line => line

/-- How a line ends: nothing more is asked, a question is asked, or there is a failure. -/
abbrev LineOutcome := Except Failure (Progress Activity)

namespace Terminal

/-- The terminal after a line. -/
def hear (t : Terminal) : Utterance → Terminal
  | .command line => t.command line
  | .answer line => (t.answer line).1

/-- The pending question after a line. -/
def pending : LineOutcome → Prompt Activity
  | .ok .finished => none
  | .ok (.asks question next) => some ⟨question, next⟩
  | .error _ => none

/-- What the journal keeps of the end of a line: the question, or the failure and its report. -/
def closing : LineOutcome → List Occurrence
  | .ok .finished => []
  | .ok (.asks question _) => [.line question.line]
  | .error e => [.failure e, .line ("Error: " ++ e.message)]

/-- A terminal after a line that did a deed and ended with an outcome. -/
structure Heard (t t' : Terminal) (deed : Deed) (outcome : LineOutcome) : Prop where
  possible : deed.Possible t.world.store.records
  prompt : t'.prompt = pending outcome
  aliases : t'.aliases = t.aliases
  records : t'.world.store.records = deed.records t.world.store.records
  context : t'.world.session.context = deed.context t.world.session.context
  refreshes : t'.world.refreshes = t.world.refreshes + deed.notices
  journal : ∃ said : List String, (∀ line ∈ said, Plain line) ∧
    t'.world.journal = t.world.journal ++ (said.map .line ++ deed.occurrences ++ closing outcome)

/-- What a line can come to: it answers the pending question, which may be asked again, or else it
is a command; an answer that nobody waits for comes to nothing. -/
def Allows (t : Terminal) (u : Utterance) (deed : Deed) (outcome : LineOutcome) : Prop :=
  match t.prompt, u with
  | some p, u =>
    (deed = .nothing ∧ outcome = .ok (.asks p.question p.next)) ∨
      p.next.Resumes t.world (Text.trim u.line) deed outcome
  | none, .command line =>
    Carries t.world (Command.parse t.aliases (Text.trim line)) deed outcome
  | none, .answer _ => deed = .nothing ∧ outcome = .ok .finished

/-- The pending question is that of its activity, which fits the world. -/
def Waits (t : Terminal) : Prop :=
  ∀ p, t.prompt = some p → p.question = p.next.question ∧ p.next.Fits t.world

variable {t t' : Terminal} {deed : Deed} {outcome : LineOutcome}

/-- Nothing happens to a terminal without a pending question. -/
lemma Heard.refl (h : t.prompt = none) : Heard t t .nothing (.ok .finished) :=
  ⟨trivial, h, rfl, rfl, rfl, rfl, [], by simp,
    by simp [Deed.occurrences, Deed.report?, closing]⟩

/-- A pending question is asked again. -/
lemma heard_again {p : Pending Activity} (h : t.prompt = some p) :
    Heard t { t with world := write t.world (Prompt.retryLines p.question) } .nothing
      (.ok (.asks p.question p.next)) := by
  refine ⟨trivial, h, rfl, rfl, rfl, rfl, [Prompt.retryNotice], ?_, ?_⟩
  · intro line hline
    rw [List.mem_singleton.1 hline]
    decide
  · simp [write, Prompt.retryLines, Deed.occurrences, Deed.report?, closing]

/-- An action is run while no question is pending, on a world like that of the terminal. -/
lemma heard_settle {s : Terminal} {w : World} {run : LineOutcome × World} (hprompt : s.prompt = none)
    (haliases : s.aliases = t.aliases) (hnear : Near t.world w)
    (hrefreshes : w.refreshes = t.world.refreshes) (hjournal : w.journal = t.world.journal)
    (h : Course w deed (failureOf run.1) run.2) : Heard t (s.settle run) deed run.1 := by
  obtain ⟨outcome, w'⟩ := run
  obtain ⟨filter, hsession⟩ := h.session
  obtain ⟨said, hsaid, hsays⟩ := h.journal
  have hpossible := h.possible
  have hrecords := h.records
  rw [hnear.records] at hpossible hrecords
  refine ⟨hpossible, ?_, haliases, hrecords, ?_, ?_, said, hsaid, ?_⟩
  · rcases outcome with e | _ | ⟨q, next⟩
    · rfl
    · exact hprompt
    · rfl
  · rw [← hnear.context]
    exact congrArg Session.context hsession
  · rw [← hrefreshes]
    exact h.refreshes
  · dsimp only at hsays
    rcases outcome with e | _ | ⟨q, next⟩ <;>
      simp [settle, Prompt.settle, write, closing, hsays, hjournal, failureOf]

/-- While no question is pending, an answer comes to nothing. -/
lemma answer_of_idle (hp : t.prompt = none) (line : String) : t.answer line = (t, false) := by
  simp [answer, Prompt.offer, hp]

/-- A blank answer to a required question does not reach its activity. -/
lemma answer_of_blank {p : Pending Activity} (hp : t.prompt = some p) {line : String}
    (h : (p.question.required && Text.trim line == "") = true) :
    t.answer line = ({ t with world := write t.world (Prompt.retryLines p.question) }, true) := by
  simp [answer, Prompt.offer, hp, h]

/-- Any other answer does. -/
lemma answer_of_accepted {p : Pending Activity} (hp : t.prompt = some p) {line : String}
    (h : ¬ (p.question.required && Text.trim line == "") = true) :
    t.answer line = ({ t with prompt := none }.settle
      ((resume p.next (Text.trim line)).perform t.world), true) := by
  simp only [answer, Prompt.offer, hp, if_neg h]

/-- While a question is pending, an answer is what its activity waited for, or the question is asked
again. -/
lemma heard_answer {p : Pending Activity} (h : t.Waits) (hp : t.prompt = some p) (line : String) :
    ∃ deed outcome, Heard t (t.answer line).1 deed outcome ∧
      ((deed = .nothing ∧ outcome = .ok (.asks p.question p.next)) ∨
        p.next.Resumes t.world (Text.trim line) deed outcome) := by
  by_cases hblank : (p.question.required && Text.trim line == "") = true
  · rw [answer_of_blank hp hblank]
    exact ⟨.nothing, _, heard_again hp, .inl ⟨rfl, rfl⟩⟩
  · rw [answer_of_accepted hp hblank]
    obtain ⟨deed, hcourse, hresumes⟩ := does_resume (h p hp).2 (Text.trim line)
    exact ⟨deed, _, heard_settle rfl rfl (Near.refl _) rfl rfl hcourse, .inr hresumes⟩

/-- While no question is pending, a line that is not blank is run as a command. -/
lemma heard_command (hp : t.prompt = none) (line : String) :
    ∃ deed outcome, Heard t (t.command line) deed outcome ∧
      Carries t.world (Command.parse t.aliases (Text.trim line)) deed outcome := by
  unfold command
  rw [hp]
  simp only [Option.isSome_none, Bool.false_eq_true, if_false]
  split
  · exact ⟨.nothing, _, Heard.refl hp, .inl rfl, fun _ _ hasks => nomatch hasks⟩
  · obtain ⟨deed, hcourse, hcarries⟩ := does_run (w := t.world) t.aliases line
    exact ⟨deed, _, heard_settle (w := { t.world with session := t.world.session.remember line })
      hp rfl ⟨rfl, rfl, rfl⟩ rfl rfl hcourse, hcarries⟩

/-- Whatever a terminal hears, it does one of the deeds that the line allows, or nothing. -/
theorem heard_hear (h : t.Waits) (u : Utterance) :
    ∃ deed outcome, Heard t (t.hear u) deed outcome ∧ t.Allows u deed outcome := by
  unfold Allows
  cases hp : t.prompt with
  | some p =>
    cases u with
    | command line =>
      have hcommand : t.command line = (t.answer line).1 := by simp [command, hp]
      rw [hear, hcommand]
      exact heard_answer h hp line
    | answer line => exact heard_answer h hp line
  | none =>
    cases u with
    | command line => exact heard_command hp line
    | answer line =>
      rw [hear, answer_of_idle hp]
      exact ⟨.nothing, _, Heard.refl hp, rfl, rfl⟩

/-- What holds of a waiting activity depends on the records and the context alone. -/
lemma fits_congr {activity : Activity} {w w' : World} (h : activity.Fits w)
    (hrecords : w'.store.records = w.store.records)
    (hcontext : w'.session.context = w.session.context) : activity.Fits w' := by
  cases activity with
  | creation c => exact Creation.Fits.congr h hcontext
  | removal r =>
    change r.Fits w'.store.records
    rw [hrecords]
    exact h
  | refusal message => trivial

/-- A line that asks a question does nothing else, and the question is that of an activity that
fits. -/
lemma Allows.asks {u : Utterance} {q : Question} {activity : Activity} (hwaits : t.Waits)
    (h : t.Allows u deed (.ok (.asks q activity))) :
    deed = .nothing ∧ q = activity.question ∧ activity.Fits t.world := by
  unfold Allows at h
  cases hp : t.prompt with
  | some p =>
    rw [hp] at h
    rcases h with ⟨hdeed, hsame⟩ | hresumes
    · cases hsame
      exact ⟨hdeed, hwaits p hp⟩
    · obtain ⟨hdeed, hq, hgoes⟩ := hresumes.2 q activity rfl
      exact ⟨hdeed, hq, hgoes.fits (hwaits p hp).2⟩
  | none =>
    rw [hp] at h
    cases u with
    | command line =>
      obtain ⟨hdeed, hq, verb, -, hbegins⟩ := h.2 q activity rfl
      exact ⟨hdeed, hq, hbegins.fits⟩
    | answer line => exact nomatch h.2

/-- A question that is pending after a line was asked at the end of the line. -/
lemma Heard.asks {p : Pending Activity} (h : Heard t t' deed outcome) (hp : t'.prompt = some p) :
    outcome = .ok (.asks p.question p.next) := by
  rw [h.prompt] at hp
  rcases outcome with e | _ | ⟨q, activity⟩
  · exact nomatch hp
  · exact nomatch hp
  · cases hp
    rfl

/-- After a line the pending question is again that of an activity that fits. -/
theorem Heard.waits {u : Utterance} (h : Heard t t' deed outcome) (hwaits : t.Waits)
    (hallows : t.Allows u deed outcome) : t'.Waits := by
  intro p hp
  rw [h.asks hp] at hallows
  obtain ⟨rfl, hq, hfits⟩ := hallows.asks hwaits
  exact ⟨hq, fits_congr hfits h.records h.context⟩

end Terminal

end TaskShell
