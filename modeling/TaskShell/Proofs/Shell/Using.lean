import TaskShell.Proofs.Shell.Updating

/-!
# What `use` does to the context

A `use` command with an id points a level of the context at the record with this id, whatever the case
of its basic letters, and empties the levels inside. Without an id it empties the level alone. In every
other case it fails or complains, and the context stays.

## Main definitions

* `World.CanFind` — no call that finding a record makes is refused.
* `Command.Points` — a command that points a level at a record.
* `Command.Leaves` — a command that empties a level.

## Main results

* `Shell.perform_use_of_points`, `Shell.perform_use_of_leaves` — what such commands come to.
* `Shell.forgoes_use` — what others come to.
-/

set_option autoImplicit false

namespace TaskShell

/-- The calls by which a world finds a record are not refused. -/
def World.CanFind (w : World) : Prop :=
  (w.faults w.calls).repository = none ∧ World.Serves { w with calls := w.calls + 1 } Faults.get

/-- A command points a level at a record: it is for the record, which is there and of the kind of the
level, its id is not empty, and the record can be found. -/
structure Command.Points (c : Command) (w : World) (level : Level) (r : Record) : Prop where
  isFor : c.IsFor r
  given : c.recordId? ≠ some ""
  kind : r.kind = level.kind
  mem : r ∈ w.store.records
  calls : w.CanFind

/-- A command empties a level: it names the level and no record. -/
def Command.Leaves (c : Command) (level : Level) : Prop :=
  c.entity = some level.name ∧ Command.nonEmpty? c.recordId? = none

variable {c : Command} {w : World} {level : Level} {r : Record}

/-- What the session holds does not matter for what a command points a level at. -/
lemma Command.points_session (session : Session) :
    c.Points { w with session } level r ↔ c.Points w level r :=
  ⟨fun h => ⟨h.isFor, h.given, h.kind, h.mem, h.calls⟩,
    fun h => ⟨h.isFor, h.given, h.kind, h.mem, h.calls⟩⟩

namespace Shell

/-- A command that empties a level does so and says so. -/
theorem perform_use_of_leaves (h : c.Leaves level) (w : World) :
    (use c).perform w = (.ok (), { w with
      session := { w.session with context := w.session.context.set level none }
      journal := w.journal ++ [.line ("Cleared " ++ level.name ++ " context")] }) := by
  obtain ⟨hentity, hid⟩ := h
  unfold use
  rw [hentity, Level.name, nonEmpty?_name]
  dsimp only
  rw [Level.ofName?_name]
  dsimp only
  rw [hid]
  rfl

/-- A command that points a level at a record does so, empties the levels inside, and says so.

**Proof sketch.** Both calls work, and the record is found because ids are distinct. -/
theorem perform_use_of_points (hdistinct : Store.Distinct w.store.records)
    (h : c.Points w level r) :
    (use c).perform w = (.ok (), { w with
      calls := w.calls + 2
      session := { w.session with
        context := (w.session.context.set level (some r.id)).clearDeeper level }
      journal := w.journal ++
        [.line ("Using " ++ level.name ++ " " ++ r.id ++ " \"" ++ r.title ++ "\"")] }) := by
  obtain ⟨hfor, hgiven, hkind, hmem, hrepository, hget⟩ := h
  have hentity : c.entity = some level.kind.name := by
    rw [← hkind]
    exact hfor.1
  obtain ⟨id, hid, -⟩ := hfor.2
  have hnonempty : Command.nonEmpty? c.recordId? = some id :=
    Command.nonEmpty?_eq_some.2 ⟨hid, fun hempty => hgiven (by rw [hid, hempty])⟩
  have hfound : w.store.find? level.kind (some id) = some r := by
    rw [← hid]
    exact (hdistinct.find?_eq_some_iff_isFor hentity).2 ⟨hmem, hfor⟩
  unfold use
  rw [hentity, nonEmpty?_name]
  dsimp only
  rw [Level.ofName?_name]
  dsimp only
  rw [hnonempty]
  dsimp only
  rw [perform_bind_of_ok (perform_repository level.kind hrepository),
    perform_bind_of_ok (perform_findRecord level.kind (some id) hget), hfound]
  rfl

/-- Writing a line and then forgoing the rest forgoes the whole. -/
lemma Forgoes.after_say {α : Type} {rest : Unit → Shell α} {line : String}
    (h : Forgoes { w with journal := w.journal ++ [line].map .line } (rest ())) :
    Forgoes w (say line >>= rest) :=
  h.of_perform (perform_say_bind line rest w)

/-- Showing the context changes nothing. -/
lemma forgoes_showContext : Forgoes w showContext := by
  have hshown : Forgoes w (say "Context:" >>= fun _ =>
      sayAll (Level.all.map (levelLine w.session.context))) :=
    Forgoes.after_say (forgoes_sayAll _)
  exact hshown

/-- A `use` command that neither points a level at a record nor empties one changes nothing.

**Proof sketch.** Either it names no level, and the context is shown or it is told what levels there
are; or it names a level and an id, and then a call is refused or no record is found. -/
theorem forgoes_use (hdistinct : Store.Distinct w.store.records)
    (hpoints : ∀ level r, ¬ c.Points w level r) (hleaves : ∀ level, ¬ c.Leaves level) :
    Forgoes w (use c) := by
  unfold use
  split
  · exact forgoes_showContext
  next entity hentity =>
  split
  · exact Forgoes.after_say (forgoes_sayAll [_])
  next level hlevel =>
  obtain ⟨hgiven, -⟩ := Command.nonEmpty?_eq_some.1 hentity
  obtain rfl : level.name = entity := name_of_ofName? hlevel
  split
  · next hid => exact absurd ⟨hgiven, hid⟩ (hleaves level)
  next id hid =>
  obtain ⟨hid, hne⟩ := Command.nonEmpty?_eq_some.1 hid
  by_cases hrepository : (w.faults w.calls).repository = none
  · refine Forgoes.after ?_ (perform_repository level.kind hrepository)
    by_cases hget : World.Serves { w with calls := w.calls + 1 } Faults.get
    · refine Forgoes.after ?_ (perform_findRecord level.kind (some id) hget)
      cases hfound : w.store.find? level.kind (some id) with
      | none => exact forgoes_sayAll [_]
      | some r =>
        have hkind : r.kind = level.kind := (Store.find?_eq_some hfound).2.1
        rw [← hid] at hfound
        obtain ⟨hmem, hfor⟩ := (hdistinct.find?_eq_some_iff_isFor hgiven).1 hfound
        have hpointed : c.Points w level r :=
          ⟨hfor, by rw [hid]; simpa using hne, hkind, hmem, hrepository, hget⟩
        exact absurd hpointed (hpoints level r)
    · exact ((stops_callUnless hget).bind _ |>.bind _).forgoes
  · exact ((stops_repository level.name hrepository).bind _).forgoes

end Shell

end TaskShell
