import TaskShell.CommandLine.Runner
import TaskShell.Proofs.Terminal.Run

/-!
# A single command and a conversation agree

A command can be run on its own, with input for its questions alone, or as the first line of a
conversation. Between the first line and the end of its dialog both ways come to the same: the
terminal is the same after every line, and so is what it has written. They part only when no question
is pending any more, where the one ends and the other waits for the next command.

## Main definitions

* `Runner.Awaits` — a question is pending before each of some lines is entered.
* `Runner.enterAll` — a runner after some lines.
* `Runner.Matches` — a single command and a conversation with the same terminal.

## Main results

* `Runner.Matches.enter` — an answer leaves them with the same terminal.
* `Runner.Matches.run` — on the same answers they come to the same world.
* `Runner.once_agrees` — so do the two ways from the start.
-/

set_option autoImplicit false

namespace TaskShell

namespace Terminal

variable {t t' : Terminal}

/-- A command leaves the mark of processing as it is. -/
lemma processing_command (t : Terminal) (line : String) :
    (t.command line).processing = t.processing := by
  have hsettle : ∀ (t : Terminal) (outcome : Except Failure (Progress Activity) × World),
      (t.settle outcome).processing = t.processing := fun _ _ => rfl
  unfold command answer
  split
  · split
    · rfl
    · rfl
    · exact hsettle _ _
  · split
    · rfl
    · exact hsettle _ _

/-- A line that leaves a question pending leaves the records alone. -/
lemma Waits.records_of_asks (h : t.Waits) {u : Utterance}
    (hasks : (t.hear u).prompt.isSome = true) :
    (t.hear u).world.store.records = t.world.store.records ∧ (t.hear u).Waits := by
  obtain ⟨p, hp⟩ := Option.isSome_iff_exists.1 hasks
  obtain ⟨deed, outcome, hheard, hallows⟩ := heard_hear h u
  have hwaits := hheard.waits h hallows
  rw [hheard.asks hp] at hallows
  obtain ⟨rfl, -, -⟩ := hallows.asks h
  exact ⟨hheard.records, hwaits⟩

/-- What is waited for does not depend on what has been written. -/
lemma Waits.congr (h : t.Waits) (hstore : t'.world.store = t.world.store)
    (hsession : t'.world.session = t.world.session) (hprompt : t'.prompt = t.prompt) : t'.Waits := by
  intro p hp
  obtain ⟨hq, hfits⟩ := h p (hprompt.symm.trans hp)
  exact ⟨hq, fits_congr hfits (by rw [hstore]) (by rw [hsession])⟩

end Terminal

namespace Runner

/-- A question is pending before each of some lines is entered. -/
def Awaits (r : Runner) : List String → Prop
  | [] => True
  | line :: lines => r.terminal.prompt.isSome = true ∧ (r.enter line).1.Awaits lines

/-- A runner after some lines. -/
def enterAll (r : Runner) (lines : List String) : Runner :=
  lines.foldl (fun r line => (r.enter line).1) r

/-- The lines of the terminal among some pieces. -/
def linesOf (pieces : List Piece) : List String :=
  pieces.filterMap Piece.line?

/-- The lines among pieces in two parts. -/
lemma linesOf_append (pieces others : List Piece) :
    linesOf (pieces ++ others) = linesOf pieces ++ linesOf others :=
  List.filterMap_append

/-- A single command and a conversation with the same terminal, which is not being used: the first has
ended if no question is pending, the second goes on in any case. -/
structure Matches (single talk : Runner) : Prop where
  terminal : talk.terminal = single.terminal
  answers : single.converses = false
  converses : talk.converses = true
  ending : single.ending = if single.terminal.prompt.isSome then none else some .finished
  goesOn : talk.ending = none

/-- A terminal whose lines have been taken. -/
def taken (t : Terminal) : Terminal :=
  { t with world := { t.world with journal := [] } }

variable {single talk r : Runner} {t : Terminal}

/-- A single command that has come to a terminal, and a conversation that has, match once the lines
have been taken from it. -/
lemma matches_taken (t : Terminal) :
    Matches (finishIfIdle { terminal := t, converses := false }).flush.1
      (flush { terminal := t, converses := true }).1 := by
  have hsingle : (finishIfIdle { terminal := t, converses := false }).flush.1 =
      { terminal := taken t, converses := false,
        ending := if t.prompt.isSome then none else some .finished } := by
    unfold finishIfIdle
    split <;> simp_all [flush, finish, taken]
  rw [hsingle]
  exact ⟨rfl, rfl, rfl, rfl, rfl⟩

/-- The lines that a single command shows are those of its terminal. -/
lemma shown_taken (t : Terminal) :
    (finishIfIdle { terminal := t, converses := false }).flush.2 =
      (flush { terminal := t, converses := true }).2 := by
  unfold finishIfIdle
  split <;> rfl

/-- A single command that has not ended gives a line to the pending question. -/
lemma enter_of_answers (hanswers : r.converses = false) (hgoesOn : r.ending = none)
    (line : String) : r.enter line = (finishIfIdle
      { terminal := (r.terminal.answer line).1, converses := false }).flush := by
  simp [Runner.enter, hanswers, hgoesOn]

/-- While a runner has not ended, something stands before each input. -/
lemma exists_cue (h : r.ending = none) : ∃ cue, r.cue? = some cue := by
  unfold cue?
  rw [h]
  by_cases hasks : r.terminal.prompt.isSome = true
  · exact ⟨"? ", by simp [hasks]⟩
  · exact ⟨"> ", by simp [hasks]⟩

/-- A runner that has ended reads nothing. -/
lemma run_of_ended {ending : Ending} (h : r.ending = some ending) (inputs : List Input) :
    r.run inputs = (r, []) := by
  have hcue : r.cue? = none := by simp [cue?, h]
  unfold Runner.run
  rw [hcue]

/-- A runner that has not ended hangs up at the end of input. -/
lemma run_nil_of_going (h : r.ending = none) :
    (r.run []).1 = r.hangUp.1 ∧ linesOf (r.run []).2 = linesOf r.hangUp.2 := by
  obtain ⟨cue, hcue⟩ := exists_cue h
  unfold Runner.run
  rw [hcue]
  exact ⟨rfl, rfl⟩

/-- A runner that has not ended receives the next input and goes on. -/
lemma run_cons_of_going (h : r.ending = none) (line : String) (rest : List Input) :
    (r.run (.line line :: rest)).1 = ((r.enter line).1.run rest).1 ∧
      linesOf (r.run (.line line :: rest)).2 =
        linesOf (r.enter line).2 ++ linesOf ((r.enter line).1.run rest).2 := by
  obtain ⟨cue, hcue⟩ := exists_cue h
  have hrun : r.run (.line line :: rest) = (((r.enter line).1.run rest).1,
      .aside cue :: (r.enter line).2 ++ ((r.enter line).1.run rest).2) := by
    rw [Runner.run.eq_def, hcue]
    rfl
  rw [hrun]
  refine ⟨rfl, ?_⟩
  exact linesOf_append (.aside cue :: (r.enter line).2) _

namespace Matches

/-- An answer to a pending question leaves a single command and a conversation with the same terminal,
and they show the same. -/
theorem enter (h : Matches single talk) (hasks : single.terminal.prompt.isSome = true)
    (line : String) :
    Matches (single.enter line).1 (talk.enter line).1 ∧
      (talk.enter line).2 = (single.enter line).2 := by
  obtain ⟨hterminal, hanswers, hconverses, hending, hgoesOn⟩ := h
  rw [if_pos hasks] at hending
  have hsubmit : single.terminal.submit line = ((single.terminal.answer line).1, true) := by
    simp [Terminal.submit, hasks]
  have htalk : talk.enter line =
      flush { terminal := (single.terminal.answer line).1, converses := true } := by
    simp [Runner.enter, hconverses, hgoesOn, hterminal, hsubmit, Option.isNone_eq_false_iff.2 hasks]
  rw [enter_of_answers hanswers hending, htalk]
  exact ⟨matches_taken _, (shown_taken _).symm⟩

/-- Where input ends, a single command and a conversation have the same world, and show no more
lines. -/
lemma run_nil (h : Matches single talk) :
    (single.run []).1.terminal.world = single.terminal.world ∧
      (talk.run []).1.terminal.world = single.terminal.world ∧
      linesOf (single.run []).2 = [] ∧ linesOf (talk.run []).2 = [] := by
  obtain ⟨hterminal, hanswers, hconverses, hending, hgoesOn⟩ := h
  have htalk : talk.hangUp = (talk.finish, [.aside "\nGoodbye!\n"]) := by
    simp [hangUp, hconverses]
  obtain ⟨hworld, hlines⟩ := run_nil_of_going hgoesOn
  rw [htalk] at hworld hlines
  have hgoodbye : (talk.run []).1.terminal.world = single.terminal.world := by
    rw [hworld, ← hterminal]
    rfl
  by_cases hasks : single.terminal.prompt.isSome = true
  · rw [if_pos hasks] at hending
    obtain ⟨hworld', hlines'⟩ := run_nil_of_going hending
    have hsingle : single.hangUp.1.terminal.world = single.terminal.world ∧
        linesOf single.hangUp.2 = [] := by
      simp [hangUp, hanswers, finish, linesOf, Piece.line?]
    rw [hworld', hlines']
    exact ⟨hsingle.1, hgoodbye, hsingle.2, hlines⟩
  · rw [if_neg hasks] at hending
    rw [run_of_ended hending]
    exact ⟨rfl, hgoodbye, rfl, hlines⟩

/-- On the same answers, each to a pending question, a single command and a conversation come to the
same world, and show the same lines. -/
theorem run (h : Matches single talk) {lines : List String} (hawaits : single.Awaits lines) :
    (single.run (lines.map .line)).1.terminal.world = (single.enterAll lines).terminal.world ∧
      (talk.run (lines.map .line)).1.terminal.world = (single.enterAll lines).terminal.world ∧
      linesOf (talk.run (lines.map .line)).2 = linesOf (single.run (lines.map .line)).2 := by
  induction lines generalizing single talk with
  | nil =>
    obtain ⟨hsingle, htalk, hnone, hnone'⟩ := h.run_nil
    exact ⟨hsingle, htalk, hnone'.trans hnone.symm⟩
  | cons line lines ih =>
    obtain ⟨hasks, hrest⟩ := hawaits
    obtain ⟨hmatches, hshown⟩ := h.enter hasks line
    obtain ⟨hsingle, htalk, hlines⟩ := ih hmatches hrest
    have hgoesOn : single.ending = none := h.ending.trans (if_pos hasks)
    obtain ⟨hrun, hsays⟩ := run_cons_of_going hgoesOn line (lines.map .line)
    obtain ⟨hrun', hsays'⟩ := run_cons_of_going h.goesOn line (lines.map .line)
    rw [List.map_cons, hrun, hrun', hsays, hsays', hshown, hlines]
    exact ⟨hsingle, htalk, rfl⟩

end Matches

/-! ## Dialogs that input breaks off -/

/-- A question that is pending before some answers and after them is pending before the first. -/
lemma Awaits.asks {lines : List String} (h : r.Awaits lines)
    (hend : (r.enterAll lines).terminal.prompt.isSome = true) :
    r.terminal.prompt.isSome = true := by
  cases lines with
  | nil => exact hend
  | cons line lines => exact h.1

/-- While a question is pending before each of some answers and after the last, the records stay as
they are. -/
lemma records_enterAll (h : Matches r talk) (hwaits : r.terminal.Waits) {lines : List String}
    (hawaits : r.Awaits lines) (hend : (r.enterAll lines).terminal.prompt.isSome = true) :
    (r.enterAll lines).terminal.world.store.records = r.terminal.world.store.records := by
  induction lines generalizing r talk with
  | nil => rfl
  | cons line lines ih =>
    obtain ⟨hasks, hrest⟩ := hawaits
    obtain ⟨hmatches, -⟩ := h.enter hasks line
    have hterminal : (r.enter line).1.terminal = taken (r.terminal.answer line).1 := by
      rw [enter_of_answers h.answers (h.ending.trans (if_pos hasks))]
      unfold finishIfIdle
      split <;> rfl
    have hnext : (r.terminal.hear (.answer line)).prompt.isSome = true := by
      have hpending := hrest.asks hend
      rw [hterminal] at hpending
      exact hpending
    obtain ⟨hrecords, hfits⟩ := hwaits.records_of_asks hnext
    have hwaits' : (r.enter line).1.terminal.Waits := by
      rw [hterminal]
      exact hfits.congr rfl rfl rfl
    have hlater := ih hmatches hwaits' hrest hend
    rw [hterminal] at hlater
    exact hlater.trans hrecords

/-! ## The two ways -/

/-- A single command, up to its first question, has the terminal after the command. -/
lemma terminal_once (t : Terminal) (line : String) :
    (once t line).1.terminal = taken (t.command line) := by
  unfold once finishIfIdle
  split <;> rfl

/-- A line that is no word to end a conversation leaves a conversation with the terminal of the single
command, and they show the same. -/
lemma matches_once (store : Store) (session : Session) (aliases : Entries String)
    (faults : Nat → Faults) {line : String} (hquit : isQuit line = false) :
    let t := Terminal.opened store session aliases faults
    Matches (once t line).1 ((conversation t).1.enter line).1 ∧
      ((conversation t).1.enter line).2 = (once t line).2 := by
  intro t
  have hsubmit : (t.submit line).1 = t.command line := by
    have hprocessing : (t.command line).processing = false := t.processing_command line
    have hsame : { t.command line with processing := false } = t.command line := by
      rw [← hprocessing]
    exact hsame
  have henter : (conversation t).1.enter line =
      flush { terminal := t.command line, converses := true } := by
    simp [conversation, Runner.enter, hquit, hsubmit]
  rw [henter]
  exact ⟨matches_taken (t.command line), (shown_taken (t.command line)).symm⟩

/-- **A single command and a conversation agree.** From a store, with a session, aliases and faults
met by any calls, a command line that is no word to end a conversation is run in two ways: on its own,
with answers, and as the first line of a conversation that goes on with the same lines. If a question
is pending before each answer is read, then where input ends:

* both have come to the same world, and so to the same records;
* the terminal has written the same lines;
* if a question is still pending, the records in both are those at the start.

**Proof sketch.** Once the command has been run, both ways hold the same terminal, whose lines have
been taken from it. An answer reaches the pending question in either way, through the answering of a
line or through its submission, and leaves the terminals equal again: induction on the answers. The
end of input takes no more than the question away. Lines that leave a question pending do nothing to
the records, for an activity does its deed once it asks no more. -/
theorem once_agrees (store : Store) (session : Session) (aliases : Entries String)
    (faults : Nat → Faults) (line : String) (answers : List String)
    (hquit : isQuit line = false)
    (hawaits : (once (.opened store session aliases faults) line).1.Awaits answers) :
    let t := Terminal.opened store session aliases faults
    let single := (once t line).1.run (answers.map .line)
    let talk := (conversation t).1.run ((line :: answers).map .line)
    single.1.terminal.world = talk.1.terminal.world ∧
      linesOf ((once t line).2 ++ single.2) = linesOf ((conversation t).2 ++ talk.2) ∧
      (((once t line).1.enterAll answers).terminal.prompt.isSome →
        single.1.terminal.world.store.records = store.records ∧
        talk.1.terminal.world.store.records = store.records) := by
  intro t single talk
  obtain ⟨hmatches, hshown⟩ := matches_once store session aliases faults hquit
  obtain ⟨hsingle, htalk, hlines⟩ := hmatches.run hawaits
  obtain ⟨hrun, hsays⟩ := run_cons_of_going (r := (conversation t).1) rfl line (answers.map .line)
  rw [← List.map_cons] at hrun hsays
  have hworld : talk.1.terminal.world = ((once t line).1.enterAll answers).terminal.world := by
    rw [← htalk, ← hrun]
  refine ⟨hsingle.trans hworld.symm, ?_, fun hend => ?_⟩
  · have hsaid : linesOf talk.2 = linesOf (once t line).2 ++ linesOf single.2 := by
      rw [← hlines, ← hshown]
      exact hsays
    rw [linesOf_append, linesOf_append, hsaid]
    rfl
  · have hstart : t.Waits := fun _ hp => nomatch hp
    have hterminal := terminal_once t line
    have hasks : (t.hear (.command line)).prompt.isSome = true := by
      have hpending := hawaits.asks hend
      rw [hterminal] at hpending
      exact hpending
    obtain ⟨hrecords, hfits⟩ := hstart.records_of_asks hasks
    have hwaits : (once t line).1.terminal.Waits := by
      rw [hterminal]
      exact hfits.congr rfl rfl rfl
    have hkept := records_enterAll hmatches hwaits hawaits hend
    rw [hterminal] at hkept
    have hstored : ((once t line).1.enterAll answers).terminal.world.store.records =
        store.records := hkept.trans hrecords
    rw [hsingle, hworld]
    exact ⟨hstored, hstored⟩

/-- Input breaks off the creation of a program when its priority has been refused: no program is
there, and the question has been written again. -/
theorem once_agrees_broken :
    let t := Terminal.opened (Store.empty (.ofQueue []) {}) {} [] fun _ => {}
    let single := (once t "create program").1.run (["Apollo", "", "urgent"].map .line)
    let talk := (conversation t).1.run (["create program", "Apollo", "", "urgent"].map .line)
    single.1.terminal.world = talk.1.terminal.world ∧
      single.1.terminal.world.store.records = [] ∧ talk.1.terminal.world.store.records = [] ∧
      (linesOf talk.2).getLast? = some "Priority (low/medium/high/critical):" := by
  have hagrees := once_agrees (Store.empty (.ofQueue []) {}) {} [] (fun _ => {}) "create program"
    ["Apollo", "", "urgent"] (by decide +kernel)
    ⟨by decide +kernel, by decide +kernel, by decide +kernel, trivial⟩
  obtain ⟨hworld, -, hkept⟩ := hagrees
  obtain ⟨hsingle, htalk⟩ := hkept (by decide +kernel)
  have hasked : (linesOf ((conversation (Terminal.opened (Store.empty (.ofQueue []) {}) {} []
      fun _ => {})).1.run (["create program", "Apollo", "", "urgent"].map .line)).2).getLast? =
        some "Priority (low/medium/high/critical):" := by
    decide +kernel
  exact ⟨hworld, hsingle, htalk, hasked⟩

end Runner

end TaskShell
