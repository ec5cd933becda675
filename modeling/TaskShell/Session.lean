import TaskShell.Number.Power
import TaskShell.Value.Basic
import TaskShell.Vocabulary

/-!
# Sessions

What a terminal remembers between commands: the context that supplies default parents, the last
filter and the command history.

## Main definitions

* `Context` — one optional record id for each level of context.
* `Session` — context, last filter and history.
* `Session.create` — a session with a limit to its history.
* `Session.remember` — a line added to the history, the oldest one going once the limit is met.
* `Session.defaultParent?` — the parent that a new record gets if none is named.
-/

set_option autoImplicit false

namespace TaskShell

/-- The levels of context, outermost first. -/
inductive Level
  | program
  | project
  | task
  deriving DecidableEq, Repr, Inhabited

namespace Level

/-- All levels. -/
def all : List Level := [.program, .project, .task]

/-- The kind of records that a level points at. -/
def kind : Level → Entity
  | .program => .program
  | .project => .project
  | .task => .task

/-- The name of a level. -/
def name (level : Level) : String :=
  level.kind.name

/-- The level with a name. -/
def ofName? (s : String) : Option Level :=
  all.find? fun level => level.name == s

/-- The level that supplies parents for a kind of records. -/
def supplying? : Entity → Option Level
  | .program => none
  | .project => some .program
  | .task => some .project
  | .subtask => some .task

/-- The levels inside a level. -/
def deeper : Level → List Level
  | .program => [.project, .task]
  | .project => [.task]
  | .task => []

end Level

/-- The record that each level points at. -/
structure Context where
  program : Option String := none
  project : Option String := none
  task : Option String := none
  deriving DecidableEq, Repr, Inhabited

namespace Context

/-- The record that a level points at. -/
def get (c : Context) : Level → Option String
  | .program => c.program
  | .project => c.project
  | .task => c.task

/-- A level pointed at a record, or at none. -/
def set (c : Context) (level : Level) (id : Option String) : Context :=
  match level with
  | .program => { c with program := id }
  | .project => { c with project := id }
  | .task => { c with task := id }

/-- The levels inside a level emptied. -/
def clearDeeper (c : Context) (level : Level) : Context :=
  level.deeper.foldl (fun c level => c.set level none) c

/-- Pointing a level somewhere changes that level alone. -/
theorem get_set (c : Context) (level other : Level) (id : Option String) :
    (c.set level id).get other = if level = other then id else c.get other := by
  cases level <;> cases other <;> rfl

/-- Emptying the levels inside a level leaves the others as they were. -/
theorem get_clearDeeper (c : Context) (level other : Level) :
    (c.clearDeeper level).get other = if other ∈ level.deeper then none else c.get other := by
  cases level <;> cases other <;> rfl

end Context

/-- What a terminal remembers. A history without limit grows for ever. -/
structure Session where
  context : Context := {}
  lastFilter : Option Fields := none
  limit : Option Nat := some 100
  history : List String := []
  deriving Repr, Inhabited

namespace Session

/-- How a session can fail. -/
inductive Error
  | negativeLimit
  | limitTooLarge
  | notContext (name : String)
  deriving DecidableEq, Repr

/-- What the user is told. -/
def Error.message : Error → String
  | .negativeLimit => "maxlen must be non-negative"
  | .limitTooLarge => "Python int too large to convert to C ssize_t"
  | .notContext name => "Cannot use a " ++ name ++ " as context"

/-- The last lines, as many as the limit allows. -/
def bounded (limit : Option Nat) (history : List String) : List String :=
  match limit with
  | some n => history.drop (history.length - n)
  | none => history

/-- Lines that the limit allows are what it keeps. -/
theorem length_bounded_le (n : Nat) (history : List String) :
    (bounded (some n) history).length ≤ n := by
  simp only [bounded, List.length_drop]
  omega

/-- A limit that a session accepts. -/
def checkLimit : Option Int → Except Error (Option Nat)
  | none => .ok none
  | some n =>
    if n < -Number.wordEnd ∨ Number.wordEnd ≤ n then .error .limitTooLarge
    else if n < 0 then .error .negativeLimit
    else .ok (some n.toNat)

/-- A session with a limit to its history. -/
def create (limit : Option Int := some 100) (history : List String := [])
    (context : Context := {}) (lastFilter : Option Fields := none) : Except Error Session := do
  let limit ← checkLimit limit
  return { context, lastFilter, limit, history := bounded limit history }

/-- A line added to the history. -/
def remember (s : Session) (line : String) : Session :=
  { s with history := bounded s.limit (s.history ++ [line]) }

/-- The parent that a new record gets if none is named. -/
def defaultParent? (s : Session) (kind : Entity) : Option String :=
  (Level.supplying? kind).bind s.context.get

/-- The parent that a new record of a named kind gets. -/
def defaultParentNamed? (s : Session) (name : String) : Option String :=
  (Entity.ofName? name).bind s.defaultParent?

/-- The record that a named level points at. -/
def current? (s : Session) (name : String) : Option String :=
  (Level.ofName? name).bind s.context.get

/-- A named level pointed at a record, or at none. -/
def setCurrent (s : Session) (name : String) (id : Option String) : Except Error Session :=
  match Level.ofName? name with
  | some level => .ok { s with context := s.context.set level id }
  | none => .error (.notContext name)

/-- A filter remembered; an empty one counts as none. -/
def setFilter (s : Session) (filter : Option Fields) : Session :=
  { s with lastFilter := filter.filter fun fields => !fields.isEmpty }

/-- A session that has forgotten everything but the limit. -/
def clear (s : Session) : Session :=
  { limit := s.limit }

end Session

end TaskShell
