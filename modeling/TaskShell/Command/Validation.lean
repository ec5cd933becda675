import TaskShell.Choice
import TaskShell.Vocabulary

/-!
# Validation of commands

A normalized command is checked rule by rule; the first rule that it breaks is its problem. A
mistyped word comes with the nearest word of the vocabulary, if one is near enough.

## Main definitions

* `Command.Problem` — how a command can fail.
* `Command.problem?` — the first rule that a command breaks.
* `Command.Problem.message`, `Command.Problem.suggestions` — what the user is told.
* `Command.requiredFields` — the fields that a command must name.
-/

set_option autoImplicit false

namespace TaskShell.Command

/-- The verbs that validation knows, by name. -/
def validVerbs : List String := Verb.all.map Verb.name

/-- The words for kinds of records that validation knows: singular, then plural. -/
def validEntities : List String :=
  Entity.all.map Entity.name ++ Entity.all.map fun e => Vocabulary.plural e.name

/-- How a command can fail. -/
inductive Problem
  | nothingGiven
  | unknownVerb (word : String) (closest : Option String)
  | unknownEntity (word : String) (closest : Option String)
  | targetMissing (verb : String) (entity : Option String)
  | choice (rejection : Choice.Rejection)
  deriving DecidableEq, Repr

namespace Problem

/-- A complaint about an unknown word. -/
def unknownWord (label word : String) (closest : Option String) (listing : String) : String :=
  let head := label ++ ": \"" ++ word ++ "\". "
  match closest with
  | some w => head ++ "Did you mean \"" ++ w ++ "\"?"
  | none => head ++ listing

/-- What the user is told. -/
def message : Problem → String
  | .nothingGiven => "No command provided. Type \"help\" for available commands."
  | .unknownVerb word closest =>
    unknownWord "Unknown command" word closest ("Available: " ++ Text.join ", " validVerbs)
  | .unknownEntity word closest =>
    unknownWord "Unknown entity" word closest
      ("Valid: " ++ Text.join ", " (Entity.all.map Entity.name))
  | .targetMissing verb entity =>
    "\"" ++ verb ++ "\" requires a target ID. Usage: " ++ verb ++ " " ++
      entity.getD "<entity>" ++ " <id>"
  | .choice rejection => rejection.message

/-- What the user may have meant. -/
def suggestions : Problem → List String
  | .unknownVerb _ closest => closest.toList
  | .unknownEntity _ closest => closest.toList
  | .choice rejection => rejection.suggestions
  | _ => []

end Problem

/-- The verbs that act on one record. -/
def targetVerbs : List String := [Verb.info, Verb.remove, Verb.update].map Verb.name

/-- A verb is one of the known ones. -/
def verbProblem? (c : Command) : Option Problem :=
  match nonEmpty? c.verb with
  | some verb =>
    if validVerbs.contains verb then none
    else some (.unknownVerb verb (Suggestion.closest? verb validVerbs))
  | none => none

/-- A kind of records is one of the known ones. -/
def entityProblem? (c : Command) : Option Problem :=
  match nonEmpty? c.entity with
  | some entity =>
    if validEntities.contains entity then none
    else some (.unknownEntity entity (Suggestion.closest? entity validEntities))
  | none => none

/-- A verb that acts on one record comes with a target or an `id`. -/
def targetProblem? (c : Command) : Option Problem :=
  match c.verb with
  | some verb =>
    if targetVerbs.contains verb && !given c.target && (c.flagValue? "id").isNone then
      some (.targetMissing verb (nonEmpty? c.entity))
    else none
  | none => none

/-- The value of a flag, if it is not empty, is one of some choices. -/
def choiceProblem? (c : Command) (name : String) (choices : List String) : Option Problem :=
  match c.flagValue? name with
  | some value => (Choice.rejection? name value choices).map .choice
  | none => none

/-- The first rule that a command breaks. -/
def problem? (c : Command) : Option Problem :=
  if !given c.verb && !given c.entity then some .nothingGiven
  else
    c.verbProblem?.or <| c.entityProblem?.or <| c.targetProblem?.or <|
      (c.choiceProblem? "priority" Choice.priorities).or
        (c.choiceProblem? "status" Choice.statuses)

/-- Whether records of a kind, by name, must name a parent. -/
def requiresParent (entity : String) : Bool :=
  match Entity.ofName? entity with
  | some e => e.parent?.isSome
  | none => false

/-- The fields that a command for a kind of records must name. -/
def requiredFields (entity verb : String) : List String :=
  if verb = Verb.create.name then "title" :: (if requiresParent entity then ["parentId"] else [])
  else []

end TaskShell.Command
