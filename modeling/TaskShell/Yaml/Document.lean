import TaskShell.Yaml.Datum
import TaskShell.Yaml.Members
import TaskShell.Yaml.Merge

/-!
# Documents

A graph of nodes becomes a document of data. Collections are made empty and filled later, in the
order in which they were met, so that a collection can hold itself, and so that of several faults
the one nearest to the root counts.

## Main definitions

* `Yaml.Document` — the data of a document and the number of the outermost one.
* `Yaml.Document.ofGraph` — the document of a graph.
* `Yaml.Document.display?` — the text of a datum.
-/

set_option autoImplicit false

namespace TaskShell.Yaml

/-- The data of a document and the number of the outermost one. -/
structure Document where
  data : Array Datum
  root : Nat
  deriving Inhabited

/-- A collection that waits to be filled: its node and its datum. -/
structure Filling where
  node : Nat
  datum : Nat

/-- What the making of data depends on: the nodes, the data so far, the numbers of data by those of
nodes, the number of the datum that `.nan` names, and the collections that wait. -/
structure Making where
  nodes : Array Node
  data : Array Datum := #[]
  made : List (Nat × Nat) := []
  named : Option Nat := none
  waiting : List Filling := []

/-- Makers of data. -/
abbrev Maker := StateT Making (Except Error)

namespace Maker

/-- The node with a number. -/
def node (number : Nat) : Maker Node :=
  return (← get).nodes.getD number default

/-- The datum with a number. -/
def datum (number : Nat) : Maker Datum :=
  return (← get).data.getD number default

/-- A datum added; its number. -/
def add (d : Datum) : Maker Nat := do
  let m ← get
  set { m with data := m.data.push d }
  return m.data.size

/-- The text of a scalar. A mapping counts as the scalar under its key `=`. -/
def scalarText : (fuel number : Nat) → Maker String
  | 0, _ => throw .malformed
  | fuel + 1, number => do
    match ← node number with
    | .scalar _ text => return text
    | .sequence .. => throw .malformed
    | .mapping _ entries =>
      let nodes := (← get).nodes
      match entries.find? fun (key, _) => (nodes.getD key default).tag == .default with
      | some (_, value) => scalarText fuel value
      | none => throw .malformed

/-- A scalar with a tag. A mapping has no date or time, even if a text stands under its key `=`. -/
def scalar (tag : Tag) (number : Nat) : Maker Nat := do
  let text ← scalarText ((← get).nodes.size + 1) number
  if tag = .timestamp then
    if let .mapping .. := ← node number then throw .timestampOfMapping
  let (d, isNamed) ← scalarDatum tag text
  match isNamed, (← get).named with
  | false, _ => add d
  | true, some number => return number
  | true, none =>
    let number ← add d
    modify fun m => { m with named := some number }
    return number

/-- A collection, empty for now. -/
def collection (d : Datum) (node : Nat) : Maker Nat := do
  let number ← add d
  modify fun m => { m with waiting := m.waiting ++ [⟨node, number⟩] }
  return number

/-- The datum of a node, made unless it has been. -/
def make (number : Nat) : Maker Nat := do
  match (← get).made.lookup number with
  | some d => return d
  | none =>
    let d ←
      match (← node number).tag with
      | .sequence => collection (.list []) number
      | .pairs => collection (.pairs []) number
      | .mapping => collection (.map []) number
      | .set => collection (.set []) number
      | tag => scalar tag number
    modify fun m => { m with made := (number, d) :: m.made }
    return d

/-- A value under a key: in the place of an equal key, or at the end. -/
def putEntry (data : Array Datum) (entries : List (Nat × Nat)) (key value : Nat) :
    List (Nat × Nat) :=
  match entries with
  | [] => [(key, value)]
  | (k, v) :: rest =>
    if k = key ∨ (data.getD k default).sameKey (data.getD key default) then (k, value) :: rest
    else (k, v) :: putEntry data rest key value

/-- The entries of a mapping, with those merged into it. A collection cannot be a key. -/
def mapEntries (number : Nat) : Maker (List (Nat × Nat)) := do
  let m ← get
  let ((), nodes) ← (flatten (3 * entryCount m.nodes + 4) number).run m.nodes
  set { m with nodes }
  match ← node number with
  | .mapping _ entries =>
    entries.foldlM (fun made (key, value) => do
      let key ← make key
      if (← datum key).isCollection then throw .malformed
      let value ← make value
      return putEntry (← get).data made key value) []
  | _ => throw .malformed

/-- The only entry of a mapping. -/
def onlyEntry (number : Nat) : Maker (Nat × Nat) := do
  match ← node number with
  | .mapping _ [(key, value)] =>
    let key ← make key
    return (key, ← make value)
  | _ => throw .malformed

/-- The items of a sequence, each made by a maker. -/
def items {α : Type} (number : Nat) (make : Nat → Maker α) : Maker (List α) := do
  match ← node number with
  | .sequence _ items => items.mapM make
  | _ => throw .malformed

/-- The members of a set, in the order in which it is shown. -/
def members (number : Nat) : Maker (List Nat) := do
  let keys := (← mapEntries number).map Prod.fst
  let data := (← get).data
  let placeKey? (number : Nat) : Option Int :=
    match data.getD number default with
    | .value v => memberKey? v
    | _ => none
  return inPlaces placeKey? keys

/-- A collection filled. -/
def fill (f : Filling) : Maker Unit := do
  let filled ←
    match ← datum f.datum with
    | .list _ => pure (Datum.list (← items f.node make))
    | .pairs _ => pure (Datum.pairs (← items f.node onlyEntry))
    | .map _ => pure (Datum.map (← mapEntries f.node))
    | .set _ => pure (Datum.set (← members f.node))
    | d => pure d
  modify fun m => { m with data := m.data.setIfInBounds f.datum filled }

/-- All collections filled, in the order in which they were met. -/
def fillAll : (fuel : Nat) → Maker Unit
  | 0 => return
  | fuel + 1 => do
    match (← get).waiting with
    | [] => return
    | f :: waiting =>
      modify fun m => { m with waiting }
      fill f
      fillAll fuel

end Maker

namespace Document

/-- The document of a graph. -/
def ofGraph (g : Graph) : Except Error Document := do
  let maker : Maker Nat := do
    let root ← Maker.make g.root
    Maker.fillAll (g.nodes.size + 1)
    return root
  let (root, m) ← maker.run { nodes := g.nodes }
  return { data := m.data, root }

/-- The datum with a number. -/
def datum (d : Document) (number : Nat) : Datum :=
  d.data.getD number default

/-- Whether a datum counts as given. -/
def isGiven (d : Document) (number : Nat) : Bool :=
  (d.datum number).isGiven

/-! ## Texts of data -/

/-- A byte in a literal that a quote encloses. -/
def byteLiteral (quote : Char) (byte : UInt8) : List Char :=
  let c := Char.ofNat byte.toNat
  if 127 ≤ c.toNat then Text.codeEscape c else Text.literalChar quote c

/-- Bytes as they stand inside a collection. -/
def bytesLiteral (content : List UInt8) : String :=
  let quote := if content.contains 39 && !content.contains 34 then '"' else '\''
  String.ofList ('b' :: quote :: content.flatMap (byteLiteral quote) ++ [quote])

/-- The most digits of a number that has a text. -/
def digitLimit : Nat := 4300

/-- Whether a value has a text: a number with too many digits has none. -/
def hasText : Value → Bool
  | .int n => n.natAbs < Number.tenTo digitLimit
  | _ => true

/-- A datum as it stands inside a collection, if it has a text; `outer` are the collections around
it. A collection inside itself is only hinted at. -/
def literal? (d : Document) :
    (fuel : Nat) → (outer : List Nat) → (number : Nat) → Option String
  | 0, _, _ => none
  | fuel + 1, outer, number =>
    let inner := literal? d fuel (number :: outer)
    let isOpen := outer.contains number
    match d.datum number with
    | .value v => if hasText v then some v.literal else none
    | .moment t => some t.literal
    | .bytes content => some (bytesLiteral content)
    | .list items =>
      if isOpen then some "[...]"
      else do return "[" ++ Text.join ", " (← items.mapM inner) ++ "]"
    | .pairs items =>
      let pair (item : Nat × Nat) : Option String := do
        return "(" ++ (← inner item.1) ++ ", " ++ (← inner item.2) ++ ")"
      if isOpen then some "[...]" else do return "[" ++ Text.join ", " (← items.mapM pair) ++ "]"
    | .map entries =>
      let pair (item : Nat × Nat) : Option String := do
        return (← inner item.1) ++ ": " ++ (← inner item.2)
      if isOpen then some "\x7b...\x7d"
      else do return "\x7b" ++ Text.join ", " (← entries.mapM pair) ++ "\x7d"
    | .set items =>
      if items.isEmpty then some "set()"
      else do return "\x7b" ++ Text.join ", " (← items.mapM inner) ++ "\x7d"

/-- The text of a datum on its own, if it has one. -/
def display? (d : Document) (number : Nat) : Option String :=
  match d.datum number with
  | .value v => if hasText v then some v.display else none
  | .moment t => some t.shown
  | _ => d.literal? (d.data.size + 1) [] number

/-- The entries of a mapping. -/
def entries? (d : Document) (number : Nat) : Option (List (Nat × Nat)) :=
  match d.datum number with
  | .map entries => some entries
  | _ => none

/-- The datum under a text in a mapping. -/
def under? (d : Document) (entries : List (Nat × Nat)) (name : String) : Option Nat :=
  (entries.find? fun (key, _) =>
    match d.datum key with
    | .value (.text s) => s == name
    | _ => false).map Prod.snd

end Document

end TaskShell.Yaml
