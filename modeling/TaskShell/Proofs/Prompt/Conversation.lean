import Mathlib.Tactic.Lemma
import TaskShell.Prompt.Dialog

/-!
# Conversations

A dialog that is started on an idle desk goes on along the answers that the lines give. Each turn of
the conversation offers one line: it answers the pending question, or is refused as a blank answer to
a required question, or finds no question pending. So every question is asked once and answered at
most once, in the order of the lines, and when the dialog has ended no line is taken any more.

## Main definitions

* `Dialog.Follows` — the course of a dialog along questions and answers.
* `Desk.Turn`, `Desk.turns` — the lines offered to a desk, one by one.
* `Desk.Turn.Orderly` — what a turn may do.
* `Desk.Conducts` — what is left of a dialog, and the account of it, after some turns.

## Main results

* `Desk.advance_none` — one step: a dialog up to its next question.
* `Desk.start_conducts` — the account of a whole conversation.
-/

set_option autoImplicit false

namespace TaskShell

/-- A question and the answer to it. -/
abbrev Exchange := Question × String

namespace Dialog

/-- What is left of a dialog after some exchanges, and the lines that it has written by then, those
that ask its questions among them. -/
inductive Follows : Dialog → List Exchange → List String → Dialog → Prop
  | here (d : Dialog) : Follows d [] [] d
  | tell {next rest : Dialog} {exchanges : List Exchange} {lines : List String} (line : String)
      (onward : Follows next exchanges lines rest) :
      Follows (.tell line next) exchanges (line :: lines) rest
  | ask {next : String → Dialog} {rest : Dialog} {exchanges : List Exchange} {lines : List String}
      (question : Question) (answer : String)
      (onward : Follows (next answer) exchanges lines rest) :
      Follows (.ask question next) ((question, answer) :: exchanges) (question.line :: lines) rest

/-- One course and then another make one course. -/
lemma Follows.trans {d d' d'' : Dialog} {es es' : List Exchange} {ls ls' : List String}
    (h : d.Follows es ls d') (h' : d'.Follows es' ls' d'') :
    d.Follows (es ++ es') (ls ++ ls') d'' := by
  induction h with
  | here d => exact h'
  | tell line _ ih => exact .tell line (ih h')
  | ask question answer _ ih => exact .ask question answer (ih h')

/-- A dialog that writes no line before it asks or ends. -/
def IsResting : Dialog → Prop
  | .tell .. => False
  | .done | .ask .. | .fail _ => True

/-- The question that a dialog begins with. -/
def question? : Dialog → Option Question
  | .ask question _ => some question
  | .done | .tell .. | .fail _ => none

/-- The failure that a dialog begins with. -/
def failure? : Dialog → Option String
  | .fail message => some message
  | .done | .tell .. | .ask .. => none

/-- The line that asks the question that a dialog begins with. -/
def asked (d : Dialog) : List String :=
  d.question?.toList.map Question.line

end Dialog

namespace Desk

/-! ## Turns -/

/-- A line offered to a desk: the desk before and after it, and what the desk did. -/
structure Turn where
  before : Desk
  line : String
  step : Step
  after : Desk

/-- The turns of a desk that some lines are offered to. -/
def turns : Desk → List String → List Turn
  | _, [] => []
  | desk, line :: lines =>
    let (after, step) := desk.answer line
    ⟨desk, line, step, after⟩ :: turns after lines

/-- The desk after some lines. -/
def answerAll (desk : Desk) (lines : List String) : Desk :=
  lines.foldl (fun desk line => (desk.answer line).1) desk

namespace Turn

/-- A question is pending that the line cannot answer: it is required, and the line is blank. -/
def Refuses (t : Turn) (p : Pending Continuation) : Prop :=
  t.before = some p ∧ p.question.required = true ∧ Text.trim t.line = ""

/-- The pending question, with the line without the blanks around it as its answer, unless the line
is refused. -/
def exchange? (t : Turn) : Option Exchange :=
  t.before.bind fun p =>
    if p.question.required && Text.trim t.line == "" then none
    else some (p.question, Text.trim t.line)

/-- What a turn may do. Without a pending question it does nothing and has no use for the line. A
refused line makes the desk ask the pending question again, and changes nothing. Any other line is
delivered as the answer to the pending question. -/
inductive Orderly (t : Turn) : Prop
  | idle (before : t.before = none) (after : t.after = none)
      (step : t.step = { result := .ok false })
  | refused (p : Pending Continuation) (refuses : t.Refuses p) (after : t.after = t.before)
      (step : t.step = { lines := [Prompt.retryNotice, p.question.line] })
  | answered (p : Pending Continuation) (before : t.before = some p) (accepts : ¬ t.Refuses p)
      (delivered : t.step.delivered = [Text.trim t.line]) (result : t.step.result = .ok true)

end Turn

/-- The exchanges in some turns. -/
def exchanges (turns : List Turn) : List Exchange :=
  turns.filterMap Turn.exchange?

/-- The lines written in the turns that answer a question. -/
def written (turns : List Turn) : List String :=
  (turns.filter fun t => t.exchange?.isSome).flatMap fun t => t.step.lines

/-- The answers delivered in some turns. -/
def delivered (turns : List Turn) : List String :=
  turns.flatMap fun t => t.step.delivered

/-- The failures caught in some turns. -/
def caught (turns : List Turn) : List String :=
  turns.flatMap fun t => t.step.caught

/-! ## The account of a dialog -/

/-- The desk when so much of a dialog is left. -/
def awaiting : Dialog → Desk
  | .ask question next => some ⟨question, next, true⟩
  | .done | .tell .. | .fail _ => none

/-- After a first step and some turns so much is left of a dialog. It has gone on along the exchanges
in these turns, and the desk has written its lines and waits for the answer to its next question. The
answers are those that were delivered, and no required question got an empty one. If the dialog has
come to a failure, this was caught, once, and nothing else was. When nothing is left to ask, no line
is taken any more. -/
structure Conducts (d : Dialog) (first : Step) (turns : List Turn) (last : Desk)
    (rest : Dialog) : Prop where
  resting : rest.IsResting
  returns : first.result = .ok true
  follows : ∃ lines, d.Follows (exchanges turns) lines rest ∧
    first.lines ++ written turns = lines ++ rest.asked
  waits : last = awaiting rest
  delivers : first.delivered ++ delivered turns = (exchanges turns).map Prod.snd
  required : ∀ e ∈ exchanges turns, e.1.required = true → e.2 ≠ ""
  catches : first.caught ++ caught turns = rest.failure?.toList
  orderly : ∀ t ∈ turns, t.Orderly
  ended : rest.question? = none → ∀ lines, ∀ t ∈ Desk.turns last lines,
    t.step = { result := .ok false } ∧ t.after = none

/-! ## One step -/

/-- The first line makes the first turn, and the others follow it. -/
lemma turns_cons (desk : Desk) (line : String) (lines : List String) :
    turns desk (line :: lines) =
      ⟨desk, line, (desk.answer line).2, (desk.answer line).1⟩ ::
        turns (desk.answer line).1 lines :=
  rfl

/-- The lines after the first one meet the desk that the first one leaves. -/
lemma answerAll_cons (desk : Desk) (line : String) (lines : List String) :
    desk.answerAll (line :: lines) = (desk.answer line).1.answerAll lines :=
  rfl

/-- A blank line does not answer a required question: it is asked again. -/
lemma answer_refused {question : Question} (next : String → Dialog) {line : String}
    (hrequired : question.required = true) (hblank : Text.trim line = "") :
    answer (awaiting (.ask question next)) line =
      (awaiting (.ask question next), { lines := Prompt.retryLines question }) := by
  simp [answer, awaiting, Prompt.offer, hrequired, hblank]

/-- Any other line answers the question, and the dialog goes on. -/
lemma answer_accepted {question : Question} (next : String → Dialog) {line : String}
    (h : ¬ (question.required = true ∧ Text.trim line = "")) :
    answer (awaiting (.ask question next)) line =
      ((advance none true (next (Text.trim line))).1,
        { (advance none true (next (Text.trim line))).2 with delivered := [Text.trim line] }) := by
  have hoffer : Prompt.offer (awaiting (.ask question next)) line =
      .accepted (Text.trim line) ⟨next, true⟩ := by
    simp only [awaiting, Prompt.offer, Bool.and_eq_true, beq_iff_eq, if_neg h]
  rw [answer, hoffer]

/-- Without a pending question no turn does anything. -/
lemma turns_none (lines : List String) :
    ∀ t ∈ turns none lines, t.step = { result := .ok false } ∧ t.after = none := by
  induction lines with
  | nil => exact List.forall_mem_nil _
  | cons line lines ih => exact List.forall_mem_cons.2 ⟨⟨rfl, rfl⟩, ih⟩

/-- A dialog writes its first line and goes on. -/
lemma advance_tell (desk : Desk) (guarded : Bool) (line : String) (next : Dialog) :
    desk.advance guarded (.tell line next) = ((desk.advance guarded next).1,
      { (desk.advance guarded next).2 with lines := line :: (desk.advance guarded next).2.lines }) := by
  unfold advance
  rw [Dialog.run]
  rcases next.run with ⟨lines, message | _ | ⟨question, next⟩⟩
  · cases guarded <;> rfl
  · rfl
  · rfl

/-- What a dialog does up to its next question. -/
def opening (rest : Dialog) : Step :=
  { lines := rest.asked, caught := rest.failure?.toList }

/-- An idle desk runs a dialog up to its next question, and waits for the answer. -/
lemma advance_none (d : Dialog) : ∃ lines rest, d.Follows [] lines rest ∧ rest.IsResting ∧
    advance none true d =
      (awaiting rest, { opening rest with lines := lines ++ (opening rest).lines }) := by
  induction d with
  | done => exact ⟨[], .done, .here _, trivial, rfl⟩
  | tell line next ih =>
    obtain ⟨lines, rest, hfollows, hresting, hadvance⟩ := ih
    refine ⟨line :: lines, rest, .tell line hfollows, hresting, ?_⟩
    rw [advance_tell, hadvance]
    rfl
  | ask question next => exact ⟨[], .ask question next, .here _, trivial, rfl⟩
  | fail message => exact ⟨[], .fail message, .here _, trivial, rfl⟩

/-! ## The account of a run -/

/-- Without turns, all of a dialog that begins with a question or has ended is left. -/
lemma Conducts.nil {rest : Dialog} (h : rest.IsResting) :
    Conducts rest (opening rest) [] (awaiting rest) rest where
  resting := h
  returns := rfl
  follows := ⟨[], .here _, by simp [opening, written]⟩
  waits := rfl
  delivers := rfl
  required := List.forall_mem_nil _
  catches := by simp [opening, caught]
  orderly := List.forall_mem_nil _
  ended := by
    cases rest with
    | done => exact fun _ => turns_none
    | tell => exact h.elim
    | ask => exact nofun
    | fail => exact fun _ => turns_none

/-- The lines that a dialog writes before it goes on come first in its account. -/
lemma Conducts.onward {d d' rest : Dialog} {lines : List String} {step : Step} {ts : List Turn}
    {last : Desk} (h : Conducts d' step ts last rest) (hfollows : d.Follows [] lines d') :
    Conducts d { step with lines := lines ++ step.lines } ts last rest := by
  obtain ⟨lines', hfollows', hlines⟩ := h.follows
  refine { h with follows := ⟨lines ++ lines', hfollows.trans hfollows', ?_⟩ }
  rw [List.append_assoc, hlines, List.append_assoc]

/-- A turn without an exchange leaves the account as it is. -/
lemma Conducts.skip {d rest : Dialog} {step : Step} {t : Turn} {ts : List Turn} {last : Desk}
    (h : Conducts d step ts last rest) (hexchange : t.exchange? = none) (horderly : t.Orderly)
    (hdelivered : t.step.delivered = []) (hcaught : t.step.caught = []) :
    Conducts d step (t :: ts) last rest := by
  have hexchanges : exchanges (t :: ts) = exchanges ts := by simp [exchanges, hexchange]
  have hwritten : written (t :: ts) = written ts := by simp [written, hexchange]
  exact { h with
    follows := by rw [hexchanges, hwritten]; exact h.follows
    delivers := by
      rw [hexchanges, ← h.delivers]
      simp [delivered, hdelivered]
    required := by rw [hexchanges]; exact h.required
    catches := by
      rw [← h.catches]
      simp [caught, hcaught]
    orderly := List.forall_mem_cons.2 ⟨horderly, h.orderly⟩ }

/-- The turn that answers a question begins the account of what comes after the answer. -/
lemma Conducts.take {question : Question} {next : String → Dialog} {answer : String}
    {rest : Dialog} {t : Turn} {ts : List Turn} {last : Desk} {step : Step}
    (h : Conducts (next answer) step ts last rest)
    (hexchange : t.exchange? = some (question, answer)) (horderly : t.Orderly)
    (hrequired : question.required = true → answer ≠ "") (hnone : step.delivered = [])
    (hstep : t.step = { step with delivered := [answer] }) :
    Conducts (.ask question next) (opening (.ask question next)) (t :: ts) last rest := by
  have hexchanges : exchanges (t :: ts) = (question, answer) :: exchanges ts := by
    simp [exchanges, hexchange]
  have hwritten : written (t :: ts) = step.lines ++ written ts := by
    simp [written, hexchange, hstep]
  obtain ⟨lines, hfollows, hlines⟩ := h.follows
  have hdelivers := h.delivers
  rw [hnone, List.nil_append] at hdelivers
  exact { h with
    returns := rfl
    follows := by
      refine ⟨question.line :: lines, ?_, ?_⟩
      · rw [hexchanges]
        exact .ask question answer hfollows
      · rw [hwritten, hlines]
        rfl
    delivers := by
      rw [hexchanges, List.map_cons, ← hdelivers]
      simp [opening, delivered, hstep]
    required := by
      rw [hexchanges]
      exact List.forall_mem_cons.2 ⟨hrequired, h.required⟩
    catches := by
      rw [← h.catches]
      simp [opening, caught, hstep, Dialog.failure?]
    orderly := List.forall_mem_cons.2 ⟨horderly, h.orderly⟩ }

/-- The account of a desk that waits for a dialog. -/
lemma awaiting_conducts (inputs : List String) {d : Dialog} (hd : d.IsResting) :
    ∃ rest, Conducts d (opening d) (turns (awaiting d) inputs)
      ((awaiting d).answerAll inputs) rest := by
  induction inputs generalizing d with
  | nil => exact ⟨d, .nil hd⟩
  | cons line inputs ih =>
    obtain ⟨rest, hrest⟩ := ih hd
    cases d with
    | done => exact ⟨rest, hrest.skip rfl (.idle rfl rfl rfl) rfl rfl⟩
    | tell => exact hd.elim
    | fail => exact ⟨rest, hrest.skip rfl (.idle rfl rfl rfl) rfl rfl⟩
    | ask question next =>
      by_cases hrefuses : question.required = true ∧ Text.trim line = ""
      · obtain ⟨hrequired, hblank⟩ := hrefuses
        have hanswer := answer_refused next hrequired hblank
        rw [turns_cons, answerAll_cons, hanswer]
        refine ⟨rest, hrest.skip ?_ (.refused _ ⟨rfl, hrequired, hblank⟩ rfl rfl) rfl rfl⟩
        simp [Turn.exchange?, awaiting, hrequired, hblank]
      · obtain ⟨lines, d', hfollows, hresting, hadvance⟩ := advance_none (next (Text.trim line))
        obtain ⟨rest, hrest⟩ := ih hresting
        have hanswer := answer_accepted next hrefuses
        rw [hadvance] at hanswer
        rw [turns_cons, answerAll_cons, hanswer]
        refine ⟨rest, (hrest.onward hfollows).take ?_ ?_ ?_ rfl rfl⟩
        · simpa [Turn.exchange?, awaiting] using hrefuses
        · exact .answered _ rfl (fun h => hrefuses h.2) rfl rfl
        · exact fun hrequired hblank => hrefuses ⟨hrequired, hblank⟩

/-- **The account of a whole conversation.** However a dialog goes, and whatever lines come, its
questions get the lines in order, without the blanks around them and without those that are refused.

**Proof sketch.** A dialog started on an idle desk is run up to its next question. From there
induction on the lines: a turn without an exchange leaves the account as it is, and after an answer
the dialog is again run up to its next question, from where the account of the other lines goes on. -/
theorem start_conducts (d : Dialog) (inputs : List String) :
    ∃ rest, Conducts d (start none d).2 (turns (start none d).1 inputs)
      ((start none d).1.answerAll inputs) rest := by
  obtain ⟨lines, d', hfollows, hresting, hstart⟩ := advance_none d
  obtain ⟨rest, hrest⟩ := awaiting_conducts inputs hresting
  rw [start, hstart]
  exact ⟨rest, hrest.onward hfollows⟩

end Desk

end TaskShell
