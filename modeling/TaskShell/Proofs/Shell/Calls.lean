import TaskShell.Proofs.Shell.Untroubled

/-!
# Calls that work and calls that refuse

Each call of an operation meets faults of its own. A call that meets none of those that concern it
answers and changes nothing but the number of calls; any other stops what it is part of, and then
nothing has been done but calls.

## Main definitions

* `World.Serves` — the next call of an operation on records is not refused.
* `Shell.Stops` — an action that fails without having done anything but calls.

## Main results

* `Shell.perform_repository`, `Shell.perform_findRecord`, `Shell.perform_listRecords` — calls that
  work.
* `Shell.stops_repository`, `Shell.stops_callUnless` — calls that refuse.
-/

set_option autoImplicit false

namespace TaskShell

/-- The next call of a world, of an operation on records, is not refused and finds its table. -/
def World.Serves (w : World) (operation : Faults → Option String) : Prop :=
  operation (w.faults w.calls) = none ∧ (w.faults w.calls).table = none

instance (w : World) (operation : Faults → Option String) : Decidable (w.Serves operation) :=
  inferInstanceAs (Decidable (_ ∧ _))

namespace Shell

variable {α β : Type} {w : World}

/-! ## Stopping -/

/-- On a world, an action fails, and has done nothing but calls. -/
def Stops (w : World) (action : Shell α) : Prop :=
  ∃ cause calls, action.perform w =
    (.error cause, { w with calls, journal := w.journal ++ [.failure cause] })

/-- What stops stops all that comes after it. -/
lemma Stops.bind {action : Shell α} (h : Stops w action) (rest : α → Shell β) :
    Stops w (action >>= rest) := by
  obtain ⟨cause, calls, hrun⟩ := h
  exact ⟨cause, calls, perform_bind_of_error hrun⟩

/-- After calls that work, what stops the rest stops the whole. -/
lemma Stops.after {action : Shell α} {rest : α → Shell β} {a : α} {calls : Nat}
    (h : Stops { w with calls } (rest a)) (hrun : action.perform w = (.ok a, { w with calls })) :
    Stops w (action >>= rest) := by
  obtain ⟨cause, calls', hrest⟩ := h
  refine ⟨cause, calls', ?_⟩
  rw [perform_bind_of_ok hrun, hrest]

/-- A failure stops. -/
lemma stops_fail (cause : Failure) : Stops w (fail cause : Shell α) :=
  ⟨cause, w.calls, rfl⟩

/-- A refusal stops. -/
lemma stops_heed {fault : Option String} (h : fault ≠ none) : Stops w (heed fault) := by
  cases fault with
  | none => exact absurd rfl h
  | some message => exact stops_fail _

/-! ## Calls -/

/-- Where nothing is refused, nothing happens. -/
@[simp] lemma perform_heed_none (w : World) : (heed none).perform w = (.ok (), w) := rfl

/-- A call that is not refused. -/
lemma perform_callUnless {operation : Faults → Option String} (h : w.Serves operation) :
    (callUnless operation).perform w = (.ok (w.faults w.calls), { w with calls := w.calls + 1 }) := by
  obtain ⟨hoperation, htable⟩ := h
  unfold callUnless
  rw [perform_bind_of_ok (perform_call w), hoperation,
    perform_bind_of_ok (perform_heed_none _), htable, perform_bind_of_ok (perform_heed_none _)]
  rfl

/-- A call that is refused. -/
lemma stops_callUnless {operation : Faults → Option String} (h : ¬ w.Serves operation) :
    Stops w (callUnless operation) := by
  refine Stops.after ?_ (perform_call w)
  by_cases hoperation : operation (w.faults w.calls) = none
  · have htable : (w.faults w.calls).table ≠ none := fun htable => h ⟨hoperation, htable⟩
    rw [hoperation, Stops, perform_bind_of_ok (perform_heed_none _)]
    exact (stops_heed htable).bind _
  · exact (stops_heed hoperation).bind _

/-- The kind with a name, found. -/
lemma perform_repository (kind : Entity) (h : (w.faults w.calls).repository = none) :
    (repository kind.name).perform w = (.ok kind, { w with calls := w.calls + 1 }) := by
  unfold repository
  rw [perform_bind_of_ok (perform_call w), h, perform_bind_of_ok (perform_heed_none _),
    Store.kindNamed_name]
  rfl

/-- The kind with a name, refused. -/
lemma stops_repository (name : String) (h : (w.faults w.calls).repository ≠ none) :
    Stops w (repository name) := by
  refine Stops.after ?_ (perform_call w)
  exact (stops_heed h).bind _

/-- The record of a kind with an id, looked up. -/
lemma perform_findRecord (kind : Entity) (id : Option String) (h : w.Serves Faults.get) :
    (findRecord kind id).perform w =
      (.ok ((w.store.find? kind id).map Record.fields), { w with calls := w.calls + 1 }) := by
  unfold findRecord
  rw [perform_bind_of_ok (perform_callUnless h), perform_bind_of_ok (perform_get _)]
  rfl

/-- The records of a kind, listed. -/
lemma perform_listRecords (kind : Entity) (h : w.Serves Faults.list) :
    (listRecords kind).perform w =
      (.ok ((w.store.list kind).map Record.fields), { w with calls := w.calls + 1 }) := by
  unfold listRecords
  rw [perform_bind_of_ok (perform_callUnless h), perform_bind_of_ok (perform_get _)]
  rfl

/-- The schema of a kind, found by its name. -/
lemma perform_schema (kind : Entity) (w : World) :
    (schema kind.name).perform w = (.ok (Schema.ofEntity kind), w) := by
  unfold schema
  rw [Schema.ofName_name]
  rfl

/-- The name of a kind is not empty. -/
lemma nonEmpty?_name (kind : Entity) : Command.nonEmpty? (some kind.name) = some kind.name := by
  cases kind <;> decide

/-- The kind that a command names, if it is one. -/
lemma perform_requireEntity {c : Command} {kind : Entity} (h : c.entity = some kind.name)
    (usage : String) (w : World) : (requireEntity c usage).perform w = (.ok (some kind.name), w) := by
  unfold requireEntity
  rw [h, nonEmpty?_name]
  rfl

end Shell

end TaskShell
