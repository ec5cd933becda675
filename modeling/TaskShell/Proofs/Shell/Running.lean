import TaskShell.Proofs.Shell.Creating

/-!
# Lines of commands and answers

A command line does at most one deed, and only one that its command orders. It asks a question only
if it does nothing, and then the question is that of the activity which its command begins. An
answer does at most the deed of the activity that waited for it.

## Main definitions

* `Activity.question`, `Activity.Fits` — the question an activity waits for, and what holds of it
  while it waits.
* `Activity.Begins` — how a command begins an activity.
* `Activity.Owns`, `Activity.GoesOn`, `Activity.Resumes` — what an activity does with an answer.
* `Shell.Carries` — what a command does.

## Main results

* `Shell.does_run` — a command line.
* `Shell.does_resume` — an answer.
-/

set_option autoImplicit false

namespace TaskShell

namespace Activity

/-- The question that an activity waits for. -/
def question : Activity → Question
  | .creation c => c.question
  | .removal r => r.question
  | .refusal _ => { text := "Q" }

/-- What holds of an activity while it waits. -/
def Fits (w : World) : Activity → Prop
  | .creation c => c.Fits w.session
  | .removal r => r.Fits w.store.records
  | .refusal _ => True

/-- How a command with a verb can begin an activity. -/
def Begins (activity : Activity) (w : World) (verb : Verb) (c : Command) : Prop :=
  match activity with
  | .creation started => verb = .create ∧ started.Begins w.session c
  | .removal started => verb = .remove ∧ started.Begins w.store.records c
  | .refusal _ => False

/-- An activity that a command begins fits the world. -/
lemma Begins.fits {activity : Activity} {w : World} {verb : Verb} {c : Command}
    (h : activity.Begins w verb c) : activity.Fits w := by
  cases activity with
  | creation started =>
    obtain ⟨-, kind, -, hopen⟩ := h
    exact (Creation.isAt_of_open? hopen).fits
  | removal started => exact h.2.fits
  | refusal message => exact h.elim

/-- What an activity can do once it has its answer. -/
def Owns (activity : Activity) (answer : String) (deed : Deed) : Prop :=
  deed = .nothing ∨
    match activity with
    | .creation c => ∃ fields r, deed = .created (c.answered answer) fields r ∧ r.kind = c.kind
    | .removal r => ∃ record, r.IsOf record ∧ deed = .removed record ∧
        ["y", "yes"].contains (Text.lower answer)
    | .refusal _ => False

/-- An activity goes on as another after an answer: a creation asks the next question. -/
def GoesOn (activity : Activity) (s : Session) (answer : String) (next : Activity) : Prop :=
  ∃ c c', activity = .creation c ∧ next = .creation c' ∧ c.next? s answer = some c'

/-- What is known of an activity that has its answer: what it does, and how it goes on. -/
def Resumes (activity : Activity) (w : World) (answer : String) (deed : Deed)
    (outcome : Except Failure (Progress Activity)) : Prop :=
  activity.Owns answer deed ∧
    ∀ q next, outcome = .ok (.asks q next) →
      deed = .nothing ∧ q = next.question ∧ activity.GoesOn w.session answer next

/-- What an activity goes on as fits the world if it did. -/
lemma GoesOn.fits {activity next : Activity} {w : World} {answer : String}
    (h : activity.GoesOn w.session answer next) (hfits : activity.Fits w) : next.Fits w := by
  obtain ⟨c, c', rfl, rfl, hnext⟩ := h
  exact (Creation.Fits.next hfits hnext).fits

end Activity

namespace Shell

variable {w : World}

/-- What is known of a command with a verb: the deeds that it orders, and the activity that it
begins. -/
def Carries (w : World) (c : Command) (deed : Deed)
    (outcome : Except Failure (Progress Activity)) : Prop :=
  (deed = .nothing ∨ ∃ verb, c.verb.bind Verb.ofName? = some verb ∧ c.Orders verb w deed) ∧
    ∀ q a, outcome = .ok (.asks q a) → deed = .nothing ∧ q = a.question ∧
      ∃ verb, c.verb.bind Verb.ofName? = some verb ∧ a.Begins w verb c

/-- A quiet command that asks nothing. -/
lemma does_of_quiet {c : Command} {w₁ : World} {action : Shell Unit} {P : Unit → Prop}
    (h : Quiet w₁ action P) :
    Does w₁ (do action; return Progress.finished) (Carries w c) :=
  h.bind_does (fun _ w' _ _ => ⟨.nothing, Course.refl w', .inl rfl, fun _ _ h => nomatch h⟩)
    fun _ => ⟨.inl rfl, fun _ _ h => nomatch h⟩

/-- A command that asks nothing. -/
lemma does_of_orders {c : Command} {verb : Verb} {action : Shell Unit}
    (hverb : c.verb.bind Verb.ofName? = some verb)
    (h : Does w action fun deed _ => c.Orders verb w deed) :
    Does w (do action; return Progress.finished) (Carries w c) := by
  refine h.map (fun _ => Progress.finished) fun deed outcome hdeed => ?_
  refine ⟨.inr ⟨verb, hverb, hdeed⟩, fun q a hasks => ?_⟩
  cases outcome <;> exact nomatch hasks

/-- A command that may ask. -/
lemma does_of_progress {α : Type} {c : Command} {verb : Verb} {action : Shell (Progress α)}
    {f : α → Activity} (hverb : c.verb.bind Verb.ofName? = some verb)
    (h : Does w action fun deed outcome => c.Orders verb w deed ∧ ∀ q a,
      outcome = .ok (.asks q a) → deed = .nothing ∧ q = (f a).question ∧ (f a).Begins w verb c) :
    Does w (do return (← action).map f) (Carries w c) := by
  refine h.map (Progress.map f) fun deed outcome hdeed => ?_
  refine ⟨.inr ⟨verb, hverb, hdeed.1⟩, fun q a hasks => ?_⟩
  rcases outcome with e | _ | ⟨question, next⟩
  · exact nomatch hasks
  · exact nomatch hasks
  · cases hasks
    obtain ⟨hnothing, hq, hbegins⟩ := hdeed.2 q next rfl
    exact ⟨hnothing, hq, verb, hverb, hbegins⟩

/-- The command of a verb. -/
theorem does_dispatch (c : Command) (line : String) :
    Does w (dispatch c line) (Carries w c) := by
  unfold dispatch
  split
  · exact does_of_quiet (quiet_list c)
  · exact does_of_quiet (quiet_search c)
  · exact does_of_quiet (quiet_info c)
  · next hverb => exact does_of_orders hverb (does_update c)
  · next hverb => exact does_of_orders hverb (does_use c)
  · next hverb => exact does_of_progress hverb ((does_create c).imp fun _ _ h =>
      ⟨h.1, fun q a hasks => by obtain ⟨hd, hq, ha⟩ := h.2 q a hasks; exact ⟨hd, hq, rfl, ha⟩⟩)
  · next hverb => exact does_of_progress hverb ((does_remove c).imp fun _ _ h =>
      ⟨h.1, fun q a hasks => by obtain ⟨hd, hq, ha⟩ := h.2 q a hasks; exact ⟨hd, hq, rfl, ha⟩⟩)
  all_goals
    refine (quiet_say (plain_unknown _)).bind_does ?_
      fun _ => ⟨.inl rfl, fun _ _ hasks => nomatch hasks⟩
    rintro - w₁ - -
    have hhint : Plain "Type \"help\" for available commands." := by decide
    exact does_of_quiet (quiet_say hhint)

/-- A command line, once the session has remembered it. -/
theorem does_run (aliases : Entries String) (line : String) :
    Completes { w with session := w.session.remember line } w (run aliases line)
      (Carries { w with session := w.session.remember line }
        (Command.parse aliases (Text.trim line))) := by
  have hfailed : ∀ e, Carries { w with session := w.session.remember line }
      (Command.parse aliases (Text.trim line)) .nothing (.error e) :=
    fun _ => ⟨.inl rfl, fun _ _ hasks => nomatch hasks⟩
  unfold Completes run
  rw [perform_bind_of_ok (perform_modifySession _ _), perform_bind_of_ok (perform_get _)]
  change Does { w with session := w.session.remember line } _ _
  dsimp only
  split
  · next lines hlines => exact does_of_quiet (quiet_sayAll (plain_of_builtin? hlines))
  · split
    · exact does_of_quiet (quiet_complain _)
    · exact does_dispatch _ _

/-- An answer to an activity. -/
theorem does_resume {activity : Activity} (hfits : activity.Fits w) (answer : String) :
    Does w (resume activity answer) (activity.Resumes w answer) := by
  cases activity with
  | creation c =>
    refine (Creation.does_resume c answer).map (Progress.map Activity.creation)
      fun deed outcome hdeed => ⟨hdeed.1.imp_right And.right, fun q next hasks => ?_⟩
    rcases outcome with e | _ | ⟨question, c'⟩
    · exact nomatch hasks
    · exact nomatch hasks
    · cases hasks
      obtain ⟨hnothing, hq, hnext⟩ := hdeed.2 _ c' rfl
      exact ⟨hnothing, hq, c, c', rfl, rfl, hnext⟩
  | removal r =>
    obtain ⟨record, hof, hfound⟩ := hfits
    refine (Removal.does_resume hof hfound answer).map (fun _ => Progress.finished)
      fun deed outcome hdeed => ⟨?_, fun q next hasks => ?_⟩
    · exact hdeed.imp_right fun h => ⟨record, hof, h.1, h.2⟩
    · cases outcome <;> exact nomatch hasks
  | refusal message =>
    exact Does.imp (quiet_fail (P := fun _ => False) _) fun _ _ h =>
      ⟨.inl h.1, fun _ _ hasks => (h.2 _ hasks).elim⟩

end Shell

end TaskShell
