import Mathlib.Tactic.Lemma
import TaskShell.Shell.World

/-!
# Actions, step by step

An action of commands is performed on a world and answers with an outcome and the world after it.
The equations below perform the basic actions; composite ones follow from `perform_bind_of_ok` and
`perform_bind_of_error`, which perform a sequence part by part.

## Main results

* `Shell.perform_bind_of_ok` — after a part that succeeds, the rest is performed.
* `Shell.perform_bind_of_error` — after a part that fails, the rest is left out.
-/

set_option autoImplicit false

namespace TaskShell.Shell

variable {α β : Type}

/-- An action that only answers leaves the world alone. -/
@[simp] lemma perform_pure (a : α) (w : World) : perform (pure a) w = (.ok a, w) := rfl

/-- After a part that succeeds, the rest is performed on what it left behind. -/
lemma perform_bind_of_ok {action : Shell α} {rest : α → Shell β} {w w' : World} {a : α}
    (h : action.perform w = (.ok a, w')) : (action >>= rest).perform w = (rest a).perform w' := by
  change (do let (outcome, s) ← action w; ExceptT.bindCont rest outcome s : Id _) = _
  change action w = _ at h
  rw [h]
  rfl

/-- After a part that fails, the rest is left out. -/
lemma perform_bind_of_error {action : Shell α} {rest : α → Shell β} {w w' : World} {e : Failure}
    (h : action.perform w = (.error e, w')) : (action >>= rest).perform w = (.error e, w') := by
  change (do let (outcome, s) ← action w; ExceptT.bindCont rest outcome s : Id _) = _
  change action w = _ at h
  rw [h]
  rfl

/-- The world, looked at. -/
@[simp] lemma perform_get (w : World) : perform get w = (.ok w, w) := rfl

/-- The world, replaced. -/
@[simp] lemma perform_set (w s : World) : perform (set s) w = (.ok (), s) := rfl

/-- The world, changed. -/
@[simp] lemma perform_modify (f : World → World) (w : World) :
    perform (modify f) w = (.ok (), f w) := rfl

/-- Occurrences, added to the journal. -/
@[simp] lemma perform_note (occurrences : List Occurrence) (w : World) :
    (note occurrences).perform w = (.ok (), { w with journal := w.journal ++ occurrences }) := rfl

/-- A failure: the journal keeps it, and it is the outcome. -/
@[simp] lemma perform_fail (cause : Failure) (w : World) :
    perform (fail cause : Shell α) w =
      (.error cause, { w with journal := w.journal ++ [.failure cause] }) := rfl

/-- The faults of a call, which counts. -/
@[simp] lemma perform_call (w : World) :
    perform call w = (.ok (w.faults w.calls), { w with calls := w.calls + 1 }) := rfl

/-- The session, changed. -/
@[simp] lemma perform_modifySession (f : Session → Session) (w : World) :
    (modifySession f).perform w = (.ok (), { w with session := f w.session }) := rfl

/-- The first part of a sequence succeeds or fails; what the sequence comes to follows. -/
lemma perform_bind_cases (action : Shell α) (rest : α → Shell β) (w : World) :
    (∃ a w', action.perform w = (.ok a, w') ∧
        (action >>= rest).perform w = (rest a).perform w') ∨
      ∃ e w', action.perform w = (.error e, w') ∧ (action >>= rest).perform w = (.error e, w') := by
  rcases h : action.perform w with ⟨_ | a, w'⟩
  · exact .inr ⟨_, _, rfl, perform_bind_of_error h⟩
  · exact .inl ⟨_, _, rfl, perform_bind_of_ok h⟩

/-- The answer of an action, reworked. -/
lemma perform_map (action : Shell α) (f : α → β) (w : World) :
    (do return f (← action) : Shell β).perform w =
      ((action.perform w).1.map f, (action.perform w).2) := by
  rcases perform_bind_cases action (fun a => pure (f a)) w with
    ⟨a, w', hrun, hbind⟩ | ⟨e, w', hrun, hbind⟩ <;>
  · rw [hrun]
    exact hbind

end TaskShell.Shell
