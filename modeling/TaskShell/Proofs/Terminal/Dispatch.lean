import TaskShell.Proofs.Shell.Untroubled
import TaskShell.Proofs.Terminal.Run

/-!
# Commands are dispatched safely

A command that breaks no rule is safe: its words are those that the commands know. So whatever happens
to a terminal, no command and no answer asks the store or the schemas for a kind of records that there
is not, and only an empty word in quotes gets as far as an unknown command.

## Main definitions

* `Terminal.Settled` — a terminal without trace of an unknown kind of records.

## Main results

* `Terminal.lasting_settled` — whatever happens leaves no such trace.
* `Terminal.validated_dispatch` — what holds of every line and of every run.
-/

set_option autoImplicit false

namespace TaskShell.Terminal

open Shell

/-- A terminal that has met no unknown kind of records and will meet none: its journal keeps no such
failure, and the activity that waits knows its kind by name. -/
structure Settled (t : Terminal) : Prop where
  untroubled : t.world.Untroubled
  named : ∀ p, t.prompt = some p → p.next.Named

variable {t t' : Terminal}

/-- Writing lines leaves a world untroubled. -/
lemma untroubled_write {w : World} (h : w.Untroubled) (lines : List String) :
    (write w lines).Untroubled := by
  intro cause hcause
  rcases List.mem_append.1 hcause with hbefore | hwritten
  · exact h cause hbefore
  · obtain ⟨line, -, hline⟩ := List.mem_map.1 hwritten
    exact nomatch hline

/-- A terminal is settled at the start. -/
lemma settled_opened (store : Store) (session : Session) (aliases : Entries String)
    (faults : Nat → Faults) : (opened store session aliases faults).Settled :=
  ⟨fun _ hcause => (nomatch hcause), fun _ hp => nomatch hp⟩

namespace Settled

/-- A terminal with the pending question of a settled one, and no more in its journal, is settled. -/
lemma congr (h : t.Settled) (hjournal : t'.world.journal ⊆ t.world.journal)
    (hprompt : t'.prompt = t.prompt) : t'.Settled :=
  ⟨fun cause hcause => h.untroubled cause (hjournal hcause),
    fun p hp => h.named p (hprompt.symm.trans hp)⟩

/-- An action that leaves nothing but activities that are named leaves a terminal settled. -/
lemma settle (h : t.Settled) {action : Shell (Progress Activity)} {w : World}
    (haction : Keeps action Progress.Named) (hw : w.Untroubled) :
    (t.settle (action.perform w)).Settled := by
  obtain ⟨huntroubled, hnamed⟩ := haction w hw
  rcases hrun : action.perform w with ⟨outcome, w'⟩
  rw [hrun] at huntroubled hnamed
  refine ⟨untroubled_write huntroubled _, fun p hp => ?_⟩
  rcases outcome with e | _ | ⟨q, activity⟩
  · exact nomatch hp
  · exact h.named p hp
  · cases hp
    exact hnamed _ rfl q activity rfl

/-- An answer leaves a terminal settled. -/
lemma answer (h : t.Settled) (line : String) : (t.answer line).1.Settled := by
  cases hp : t.prompt with
  | none =>
    rw [answer_of_idle hp]
    exact h
  | some p =>
    by_cases hblank : (p.question.required && Text.trim line == "") = true
    · rw [answer_of_blank hp hblank]
      exact ⟨untroubled_write h.untroubled _, h.named⟩
    · rw [answer_of_accepted hp hblank]
      have hidle : Settled { t with prompt := none } := ⟨h.untroubled, fun _ hnone => nomatch hnone⟩
      exact hidle.settle (keeps_resume (h.named p hp) _) h.untroubled

/-- A command leaves a terminal settled. -/
lemma command (h : t.Settled) (line : String) : (t.command line).Settled := by
  unfold Terminal.command
  split
  · exact h.answer line
  · split
    · exact h
    · exact h.settle (keeps_run _ _) h.untroubled

/-- A record stored past the terminal leaves it settled. -/
lemma put (h : t.Settled) (kind : String) (data : Fields) : (t.put kind data).2.Settled := by
  unfold Terminal.put
  split <;> exact h.congr (List.Subset.refl _) rfl

end Settled

/-- A settled terminal stays so, whatever happens. -/
theorem lasting_settled : Lasting Settled where
  congr h _ _ hjournal hprompt := h.congr hjournal hprompt
  hear h u := by
    cases u with
    | command line => exact h.command line
    | answer line => exact h.answer line
  drop h := ⟨h.untroubled, fun _ hp => nomatch hp⟩
  askRefusal h message := by
    refine ⟨untroubled_write h.untroubled _, fun p hp => ?_⟩
    cases hp
    trivial
  put h := h.put

/-- Events leave a terminal settled. -/
theorem Settled.after (h : t.Settled) (events : List Event) : (t.after events).Settled :=
  lasting_settled.after h events

/-- **Commands are dispatched safely.** Whatever the aliases:

* the command of a line that breaks no rule is safe: its verb is known or empty, its kind of records
  is absent, empty or the name of one of the four kinds, it names a record where its verb acts on one,
  and its priority and status are among the choices, letter case aside;
* a line that gets past the answers before validation, and past validation, has a verb with a command
  of its own, or else its first positional token is an empty quoted one;
* whatever happens to a terminal, nothing has ever failed on a word for an unknown kind of records.

**Proof sketch.** Normalization turns plurals into names before validation looks at them, so of the
words that validation accepts only names are left. Each command asks the store and the schemas for the
name that it was validated with, and the question that a removal leaves keeps that name for its
answer; induction on the events does the rest. An unquoted token is never empty, and `help` and `man`
are answered before validation. -/
theorem validated_dispatch (store : Store) (session : Session) (aliases : Entries String)
    (faults : Nat → Faults) (events : List Event) :
    (∀ line, (Command.parse aliases line).problem? = none → (Command.parse aliases line).Safe) ∧
    (∀ history line, builtin? history (Command.parse aliases (Text.trim line)) line = none →
      (Command.parse aliases (Text.trim line)).problem? = none →
      (∃ verb, (Command.parse aliases (Text.trim line)).verb.bind Verb.ofName? = some verb ∧
          verb ≠ .help ∧ verb ≠ .man) ∨
        Command.firstPositional? (Shortcut.expand aliases (Text.trim line)) = some ⟨[], true⟩) ∧
    ∀ cause, .failure cause ∈ ((opened store session aliases faults).after events).world.journal →
      ¬cause.IsUnknownKind :=
  ⟨fun _ => Command.safe_parse, fun _ _ => verb_or_firstPositional?,
    ((settled_opened store session aliases faults).after events).untroubled⟩

/-- The line begins with an empty quoted word, which validation accepts. -/
theorem validated_dispatch_quoted :
    (Command.parse [] "'' Tasks T1 priority:HIGH").Safe ∧
      (Command.parse [] "'' Tasks T1 priority:HIGH").entity = some "task" ∧
      Command.firstPositional? "'' Tasks T1 priority:HIGH" = some ⟨[], true⟩ := by
  obtain ⟨hsafe, hunknown, -⟩ :=
    validated_dispatch (Store.empty (.ofQueue []) {}) {} [] (fun _ => {}) []
  have hproblem : (Command.parse [] "'' Tasks T1 priority:HIGH").problem? = none := by
    decide +kernel
  have hbare : Shortcut.expand [] (Text.trim "'' Tasks T1 priority:HIGH") =
      "'' Tasks T1 priority:HIGH" := by decide +kernel
  refine ⟨hsafe _ hproblem, by decide +kernel, ?_⟩
  rcases hunknown [] "'' Tasks T1 priority:HIGH" (by decide +kernel) (by decide +kernel) with
    ⟨verb, hverb, -⟩ | hfirst
  · have hnone : (Command.parse [] (Text.trim "'' Tasks T1 priority:HIGH")).verb.bind
        Verb.ofName? = none := by decide +kernel
    exact nomatch hverb.symm.trans hnone
  · rw [hbare] at hfirst
    exact hfirst

end TaskShell.Terminal
