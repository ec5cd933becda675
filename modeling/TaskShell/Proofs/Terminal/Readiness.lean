import TaskShell.Proofs.Terminal.Run

/-!
# A terminal stays ready

Whatever fails while a line is heard, the failure is caught and reported, and no question is left
pending. A command that is heard while no question is pending leaves none either, or else the first
question of the activity that it begins.

## Main definitions

* `Caught` — the failures of a line are caught and reported.
* `Terminal.Starts` — a command leaves the first question of an activity that it begins.

## Main results

* `Terminal.hear_ready` — a terminal stays ready in every run.
-/

set_option autoImplicit false

namespace TaskShell

/-- The failures among the occurrences of a line: there are none, or the last but one is the only
failure, its report comes last, and the line leaves no question. -/
def Caught (prompt : Prompt Activity) (kept : List Occurrence) : Prop :=
  (∀ cause, .failure cause ∉ kept) ∨
    ∃ before cause, kept = before ++ [.failure cause, .line ("Error: " ++ cause.message)] ∧
      (∀ other, .failure other ∉ before) ∧ prompt = none

/-- No deed is a failure. -/
lemma failure_notMem_occurrences (deed : Deed) (cause : Failure) :
    .failure cause ∉ deed.occurrences := by
  unfold Deed.occurrences
  split
  · simp [Deed.reported]
  · exact List.not_mem_nil

namespace Terminal

variable {t t' : Terminal} {deed : Deed} {outcome : LineOutcome}

/-- A line leaves the first question of an activity that its command begins, asked last. -/
def Starts (t t' : Terminal) (line : String) (kept : List Occurrence) : Prop :=
  ∃ verb activity before,
    (Command.parse t.aliases (Text.trim line)).verb.bind Verb.ofName? = some verb ∧
    activity.Begins t.world verb (Command.parse t.aliases (Text.trim line)) ∧
    t'.prompt = some ⟨activity.question, activity⟩ ∧
    kept = before ++ [.line activity.question.line]

/-- The failure of a line is caught. -/
lemma caught_closing {said : List String} (hprompt : t'.prompt = pending outcome) :
    Caught t'.prompt (said.map .line ++ deed.occurrences ++ closing outcome) := by
  have hbefore : ∀ cause, Occurrence.failure cause ∉
      said.map Occurrence.line ++ deed.occurrences := by
    intro cause hcause
    rcases List.mem_append.1 hcause with hcause | hcause
    · obtain ⟨line, -, hline⟩ := List.mem_map.1 hcause
      cases hline
    · exact failure_notMem_occurrences deed cause hcause
  rcases outcome with e | _ | ⟨q, a⟩
  · exact .inr ⟨_, e, rfl, hbefore, hprompt⟩
  · refine .inl fun cause hcause => ?_
    rw [closing, List.append_nil] at hcause
    exact hbefore cause hcause
  · refine .inl fun cause hcause => ?_
    rcases List.mem_append.1 hcause with hcause | hcause
    · exact hbefore cause hcause
    · cases List.mem_singleton.1 hcause

/-- **A terminal stays ready.** From an empty store, with any faults met by any calls, after any
events, whatever a terminal hears: the failures of the line are caught, and if no question was
pending, none is afterwards, or the line was a command and the question is the first of the activity
that it begins.

**Proof sketch.** A reachable terminal is sound, so the activity that waits fits and the line ends in
one of three ways. A failure empties the prompt and is reported; a question comes from the activity
that the line leaves; and while none is pending, that activity was begun by the command. -/
theorem hear_ready (ids : IdSupply) (clock : Clock) (room : Json.Room) (session : Session)
    (aliases : Entries String) (faults : Nat → Faults) (events : List Event) (u : Utterance) :
    let t := (opened (Store.empty ids clock room) session aliases faults).after events
    ∃ kept, (t.hear u).world.journal = t.world.journal ++ kept ∧ Caught (t.hear u).prompt kept ∧
      (t.prompt = none → (t.hear u).prompt = none ∨
        ∃ line, u = .command line ∧ t.Starts (t.hear u) line kept) := by
  intro t
  have hsound : t.Sound := (sound_empty ids clock room session aliases faults).after events
  obtain ⟨deed, outcome, hheard, hallows⟩ := heard_hear hsound.waits u
  obtain ⟨said, -, hjournal⟩ := hheard.journal
  refine ⟨_, hjournal, caught_closing hheard.prompt, fun hidle => ?_⟩
  unfold Allows at hallows
  rw [hidle] at hallows
  rcases outcome with e | _ | ⟨q, a⟩
  · exact .inl hheard.prompt
  · exact .inl hheard.prompt
  · cases u with
    | command line =>
      obtain ⟨-, rfl, verb, hverb, hbegins⟩ := hallows.2 q a rfl
      exact .inr ⟨line, rfl, verb, a, _, hverb, hbegins, hheard.prompt, rfl⟩
    | answer line => exact nomatch hallows.2

end Terminal

end TaskShell
