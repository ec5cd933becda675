import TaskShell.Proofs.Terminal.Run

/-!
# Where lines go, and what is remembered of them

A line comes in as a command, as an answer, or complete from the line buffer. While a question is
pending, the line is given to it, whichever way it came in, and to nothing else. Otherwise an answer
comes to nothing, a complete line is dropped while a command is being processed, and any other line
that is not blank is run as a command. The history holds the last lines that were run as commands,
as they came in, as many as the limit allows.

## Main definitions

* `Session.Remembers` — a session has remembered some lines on top of those of another.
* `Terminal.linesRun`, `Terminal.allLinesRun` — the lines that an event, or several, run as
  commands.

## Main results

* `Session.bounded_append` — what goes when the limit is met does not come back.
* `Terminal.Sound.remembers_perform`, `Terminal.Sound.remembers_after` — a terminal remembers the
  lines that are run as commands, and no others.
* `Terminal.lines_routed` — the history and the ways of lines in every run.
-/

set_option autoImplicit false

namespace TaskShell

/-! ## Bounded histories -/

namespace Session

/-- What goes when the limit is met does not come back: bounding a history before lines are added to
it does not change its last lines. -/
theorem bounded_append (limit : Option Nat) (history lines : List String) :
    bounded limit (bounded limit history ++ lines) = bounded limit (history ++ lines) := by
  cases limit with
  | none => rfl
  | some n =>
    have hfront : history.length - n ≤ history.length := Nat.sub_le _ _
    simp only [bounded]
    rw [← List.drop_append_of_le_length hfront, List.drop_drop]
    congr 1
    simp only [List.length_drop, List.length_append]
    omega

/-- A session has remembered some lines on top of those of another: if the one holds the last lines
of some, the other holds the last ones of these and of the new lines. -/
structure Remembers (s s' : Session) (lines : List String) : Prop where
  limit : s'.limit = s.limit
  history : ∀ all, s.history = bounded s.limit all → s'.history = bounded s.limit (all ++ lines)

variable {s s' s'' : Session} {lines lines' : List String}

/-- A session with the history of another has remembered nothing more. -/
lemma remembers_of_eq (hlimit : s'.limit = s.limit) (hhistory : s'.history = s.history) :
    s.Remembers s' [] := by
  refine ⟨hlimit, fun all hall => ?_⟩
  rw [hhistory, hall, List.append_nil]

/-- A session that remembers a line has remembered it. -/
lemma remembers_remember (s : Session) (line : String) : s.Remembers (s.remember line) [line] := by
  refine ⟨rfl, fun all hall => ?_⟩
  change bounded s.limit (s.history ++ [line]) = _
  rw [hall, bounded_append]

/-- What is remembered in two parts. -/
lemma Remembers.trans (h : s.Remembers s' lines) (h' : s'.Remembers s'' lines') :
    s.Remembers s'' (lines ++ lines') := by
  refine ⟨h'.limit.trans h.limit, fun all hall => ?_⟩
  have hmiddle : s'.history = bounded s'.limit (all ++ lines) := by
    rw [h.limit]
    exact h.history all hall
  rw [h'.history _ hmiddle, h.limit, List.append_assoc]

end Session

/-- An action remembers no line. -/
lemma Course.remembers {w w' : World} {deed : Deed} {failure : Option Failure}
    (h : Course w deed failure w') : w.session.Remembers w'.session [] := by
  obtain ⟨filter, hsession⟩ := h.session
  rw [hsession]
  exact Session.remembers_of_eq rfl rfl

namespace Terminal

open Shell

/-! ## Lines that are run as commands -/

/-- The line, if it is run as a command: no question is pending, and the line is not blank. -/
def lineRun (t : Terminal) (line : String) : List String :=
  if t.prompt.isSome || Text.isBlankLine line then [] else [line]

/-- A complete line, if it is run as a command: besides, no command is being processed. -/
def completeLineRun (t : Terminal) (line : String) : List String :=
  if t.processing then [] else t.lineRun line

/-- The lines that keystrokes complete and that are run as commands. -/
def typedLinesRun (t : Terminal) : List Char → List String
  | [] => []
  | c :: cs =>
    (if c = '\r' then t.completeLineRun (String.ofList t.buffer) else []) ++
      (t.key c).typedLinesRun cs

/-- A terminal that has forgotten what it wrote, as it does before every event. -/
def cleared (t : Terminal) : Terminal :=
  { t with world := { t.world with journal := [] }, echo := [] }

/-- The lines that an event runs as commands. -/
def linesRun (t : Terminal) : Event → List String
  | .command line => t.lineRun line
  | .submit line => t.completeLineRun line
  | .feed keys => t.cleared.typedLinesRun keys.toList
  | _ => []

/-- The lines that events run as commands, one after the other. -/
def allLinesRun (t : Terminal) : List Event → List String
  | [] => []
  | event :: events => t.linesRun event ++ (t.perform event).2.allLinesRun events

variable {t : Terminal} {p : Pending Activity}

/-- The session of a terminal after an action is that of the action. -/
@[simp] lemma session_settle (t : Terminal)
    (outcome : Except Failure (Progress Activity) × World) :
    (t.settle outcome).world.session = outcome.2.session := rfl

/-- A terminal remembers no answer. -/
lemma Sound.remembers_answer (h : t.Sound) (line : String) :
    t.world.session.Remembers (t.answer line).1.world.session [] := by
  cases hp : t.prompt with
  | none =>
    rw [answer_of_idle hp]
    exact Session.remembers_of_eq rfl rfl
  | some p =>
    by_cases hblank : (p.question.required && Text.trim line == "") = true
    · rw [answer_of_blank hp hblank]
      exact Session.remembers_of_eq rfl rfl
    · obtain ⟨deed, hcourse, -⟩ := does_resume (h.waits p hp).2 (Text.trim line)
      rw [answer_of_accepted hp hblank, session_settle]
      exact hcourse.remembers

/-- A terminal remembers a line that is run as a command. -/
lemma Sound.remembers_command (h : t.Sound) (line : String) :
    t.world.session.Remembers (t.command line).world.session (t.lineRun line) := by
  unfold command lineRun
  cases hp : t.prompt with
  | some p => exact h.remembers_answer line
  | none =>
    simp only [Option.isSome_none, Bool.false_eq_true, if_false, Bool.false_or]
    split
    · exact Session.remembers_of_eq rfl rfl
    · obtain ⟨deed, hcourse, -⟩ := does_run (w := t.world) t.aliases line
      rw [session_settle]
      exact (Session.remembers_remember _ line).trans hcourse.remembers

/-- A terminal remembers a complete line that is run as a command. -/
lemma Sound.remembers_submit (h : t.Sound) (line : String) :
    t.world.session.Remembers (t.submit line).1.world.session (t.completeLineRun line) := by
  unfold Terminal.submit completeLineRun
  cases hp : t.prompt with
  | some p =>
    have hnone : t.lineRun line = [] := by simp [lineRun, hp]
    rw [hnone, ite_self]
    exact h.remembers_answer line
  | none =>
    simp only [Option.isSome_none, Bool.false_eq_true, if_false]
    split
    · exact Session.remembers_of_eq rfl rfl
    · exact h.remembers_command line

/-- A terminal remembers the line that a keystroke completes, if it is run as a command. -/
lemma Sound.remembers_key (h : t.Sound) (c : Char) :
    t.world.session.Remembers (t.key c).world.session
      (if c = '\r' then t.completeLineRun (String.ofList t.buffer) else []) := by
  split
  · next hc =>
    subst hc
    have hcleared : Sound ({ t with buffer := [] }.draw ['\r', '\n']) := h.congr rfl rfl rfl
    exact hcleared.remembers_submit _
  · next hc =>
    rw [(key_of_ne_return hc).1]
    exact Session.remembers_of_eq rfl rfl

/-- A terminal remembers the lines that keystrokes complete and that are run as commands. -/
lemma Sound.remembers_feed (h : t.Sound) (keys : List Char) :
    t.world.session.Remembers (t.feed keys).world.session (t.typedLinesRun keys) := by
  induction keys generalizing t with
  | nil => exact Session.remembers_of_eq rfl rfl
  | cons c cs ih => exact (h.remembers_key c).trans (ih (lasting_sound.key h c))

/-- A record stored past the terminal leaves the session alone. -/
lemma session_put (t : Terminal) (kind : String) (data : Fields) :
    (t.put kind data).2.world.session = t.world.session := by
  unfold put
  split <;> rfl

/-- Whatever happens to a terminal, it remembers the lines that are run as commands, and no
others. -/
theorem Sound.remembers_perform (h : t.Sound) (event : Event) :
    t.world.session.Remembers (t.perform event).2.world.session (t.linesRun event) := by
  have hcleared : t.cleared.Sound := h.congr rfl rfl rfl
  cases event with
  | command line => exact hcleared.remembers_command line
  | answer line => exact hcleared.remembers_answer line
  | feed keys => exact hcleared.remembers_feed keys.toList
  | submit line => exact hcleared.remembers_submit line
  | store kind data =>
    have hsession := t.cleared.session_put kind data
    refine Session.remembers_of_eq (congrArg Session.limit hsession) ?_
    exact congrArg Session.history hsession
  | interrupt | processing value | reset | askRefusal message | refuse operation message
  | dump kind =>
    exact Session.remembers_of_eq rfl rfl

/-- A terminal remembers the lines that events run as commands, and no others. -/
theorem Sound.remembers_after (h : t.Sound) (events : List Event) :
    t.world.session.Remembers (t.after events).world.session (t.allLinesRun events) := by
  induction events generalizing t with
  | nil => exact Session.remembers_of_eq rfl rfl
  | cons event events ih => exact (h.remembers_perform event).trans (ih (lasting_sound.perform h event))

/-! ## Where lines go -/

/-- A line is given to the pending question: it is asked again if it must be answered and the line
is blank; otherwise what waits for the answer goes on with the trimmed line. -/
def answered (t : Terminal) (p : Pending Activity) (line : String) : Terminal :=
  if p.question.required && Text.trim line == "" then
    { t with world := write t.world (Prompt.retryLines p.question) }
  else { t with prompt := none }.settle ((resume p.next (Text.trim line)).perform t.world)

/-- A line that comes in while a question is pending is given to it, whichever way it comes in. -/
lemma routed_of_pending (hp : t.prompt = some p) (line : String) :
    t.answer line = (t.answered p line, true) ∧ t.command line = t.answered p line ∧
      t.submit line = (t.answered p line, true) := by
  have hanswer : t.answer line = (t.answered p line, true) := by
    unfold answered
    by_cases hblank : (p.question.required && Text.trim line == "") = true
    · rw [answer_of_blank hp hblank, if_pos hblank]
    · rw [answer_of_accepted hp hblank, if_neg hblank]
  refine ⟨hanswer, ?_, ?_⟩
  · simp [command, hp, hanswer]
  · simp [submit, hp, hanswer]

/-- While no question is pending and a command is being processed, a complete line comes to
nothing. -/
lemma submit_of_processing (hp : t.prompt = none) (hprocessing : t.processing = true)
    (line : String) : t.submit line = (t, false) := by
  simp [submit, hp, hprocessing]

/-- A line that is given to a question is not expanded: it comes to the same whatever the aliases
are. -/
lemma answered_aliases (t : Terminal) (p : Pending Activity) (line : String)
    (aliases : Entries String) :
    { t with aliases }.answered p line = { t.answered p line with aliases } := by
  unfold answered
  split <;> rfl

/-- A session that is created keeps the last of the lines that it is given. -/
lemma history_of_create {limit : Option Int} {seeded : List String} {context : Context}
    {filter : Option Fields} {session : Session}
    (h : Session.create limit seeded context filter = .ok session) :
    session.limit = limit.map Int.toNat ∧
      session.history = Session.bounded session.limit seeded := by
  have hlimit : ∀ bound, Session.checkLimit limit = .ok bound → bound = limit.map Int.toNat := by
    intro bound hbound
    unfold Session.checkLimit at hbound
    split at hbound
    · exact (Except.ok.inj hbound).symm
    · split at hbound
      · exact nomatch hbound
      · split at hbound
        · exact nomatch hbound
        · exact (Except.ok.inj hbound).symm
  unfold Session.create at h
  cases hcheck : Session.checkLimit limit with
  | error e =>
    rw [hcheck] at h
    exact nomatch h
  | ok bound =>
    rw [hcheck] at h
    cases h
    exact ⟨hlimit bound hcheck, rfl⟩

/-- **Lines are routed and remembered.** A terminal is opened with a session whose history is seeded
with some lines, over records with ids of their own, as the key of their table demands, with any
aliases and any faults met by any calls. Whatever happens to it:

* the history is the last lines, as many as the limit allows, of those it was seeded with and those
  that were run as commands since then: that came in as commands, or complete while no command was
  being processed, when no question was pending, and that were not blank;
* while a question is pending, a line is given to it, whichever way it comes in; it is not
  remembered, and what it comes to does not depend on the aliases;
* while none is pending, an answer comes to nothing, and neither does a complete line come to
  anything while a command is being processed;
* an interrupt leaves the question and the world alone.

**Proof sketch.** Induction on the events and, within one of them, on the keystrokes. A terminal
stays sound, so the activity that gets an answer fits, and what it does leaves the history alone; so
does what a command does after its line has been remembered. What goes when the limit is met does
not come back, so bounding the history line by line comes to the same as bounding all lines at
once. -/
theorem lines_routed (limit : Option Int) (seeded : List String) (context : Context)
    (filter : Option Fields) (session : Session) (store : Store) (aliases : Entries String)
    (faults : Nat → Faults) (events : List Event)
    (hsession : Session.create limit seeded context filter = .ok session)
    (hdistinct : Store.Distinct store.records) :
    let start := opened store session aliases faults
    let t := start.after events
    t.world.session.history =
        Session.bounded (limit.map Int.toNat) (seeded ++ start.allLinesRun events) ∧
      (∀ p line, t.prompt = some p →
        t.answer line = (t.answered p line, true) ∧ t.command line = t.answered p line ∧
        t.submit line = (t.answered p line, true) ∧
        (t.answered p line).world.session.history = t.world.session.history ∧
        ∀ aliases', { t with aliases := aliases' }.answered p line =
          { t.answered p line with aliases := aliases' }) ∧
      (∀ line, t.prompt = none → t.answer line = (t, false) ∧
        (t.processing = true → t.submit line = (t, false))) ∧
      t.interrupt.prompt = t.prompt ∧ t.interrupt.world = t.world := by
  intro start t
  obtain ⟨hlimit, hseeded⟩ := history_of_create hsession
  have hstart : start.Sound := sound_opened hdistinct session aliases faults
  have hsound : t.Sound := hstart.after events
  have hremembers := hstart.remembers_after events
  have hhistory := hremembers.history seeded hseeded
  refine ⟨?_, fun p line hp => ?_, fun line hp => ⟨answer_of_idle hp line, fun hprocessing => ?_⟩,
    rfl, rfl⟩
  · rw [← hlimit]
    exact hhistory
  · obtain ⟨hanswer, hcommand, hsubmit⟩ := routed_of_pending hp line
    refine ⟨hanswer, hcommand, hsubmit, ?_, t.answered_aliases p line⟩
    have hkept := (hsound.remembers_answer line).history
      (seeded ++ start.allLinesRun events) (by rw [hremembers.limit]; exact hhistory)
    rw [hanswer, List.append_nil, hremembers.limit] at hkept
    exact hkept.trans hhistory.symm
  · exact submit_of_processing hp hprocessing line

/-- Of two seeded lines and three that are run, the last three are remembered; the title that is
asked for is given to the question although a command is being processed. -/
theorem lines_routed_dialog :
    let t := (opened (Store.empty (.ofQueue []) {})
      { limit := some 3, history := ["help", "man"] } [] fun _ => {}).after
        [.submit " list programs", .command "  ", .feed "prj\r", .command "create program",
          .processing true]
    t.world.session.history = [" list programs", "prj", "create program"] ∧
      (t.submit "Apollo").2 = true ∧
      (t.submit "Apollo").1.world.session.history = t.world.session.history := by
  intro t
  obtain ⟨hhistory, hrouted, -⟩ := lines_routed (some 3) ["help", "man"] {} none
    { limit := some 3, history := ["help", "man"] } (Store.empty (.ofQueue []) {}) [] (fun _ => {})
    [.submit " list programs", .command "  ", .feed "prj\r", .command "create program",
      .processing true] rfl List.Pairwise.nil
  have hpending : t.prompt.isSome := by decide +kernel
  obtain ⟨p, hp⟩ := Option.isSome_iff_exists.1 hpending
  obtain ⟨-, -, hsubmit, hkept, -⟩ := hrouted p "Apollo" hp
  refine ⟨hhistory.trans (by decide +kernel), congrArg Prod.snd hsubmit, ?_⟩
  rw [hsubmit]
  exact hkept

end Terminal

end TaskShell
