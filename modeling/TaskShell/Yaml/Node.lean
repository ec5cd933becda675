import TaskShell.Yaml.Plain
import TaskShell.Yaml.Token

/-!
# Nodes of a YAML text

The tokens of a text form one document, and the document a graph of nodes: scalars, sequences and
mappings. Collections refer to nodes by their numbers. An alias is the number of the node that it
names, so that a node can occur more than once, also inside itself.

## Main definitions

* `Yaml.Node` — scalars, sequences and mappings with their tags.
* `Yaml.Graph` — the nodes of a document and the number of its root.
* `Yaml.Graph.ofText?` — the graph of the only document, if there is a document.
-/

set_option autoImplicit false

namespace TaskShell.Yaml

/-- A node with its tag: the explicit one, or what the node is without one. -/
inductive Node
  | scalar (tag : Tag) (text : String)
  | sequence (tag : Tag) (items : List Nat)
  | mapping (tag : Tag) (entries : List (Nat × Nat))
  deriving Repr, Inhabited

/-- The nodes of a document and the number of its root. -/
structure Graph where
  nodes : Array Node
  root : Nat

namespace Node

/-- The tag of a node. -/
def tag : Node → Tag
  | .scalar tag _ | .sequence tag _ | .mapping tag _ => tag

/-- A node with another tag. -/
def withTag (node : Node) (tag : Tag) : Node :=
  match node with
  | .scalar _ text => .scalar tag text
  | .sequence _ items => .sequence tag items
  | .mapping _ entries => .mapping tag entries

/-- What the reading of nodes depends on: the tokens still to come, the nodes so far, the numbers of
those that anchors name, and the meaning of tag handles. -/
structure Reading where
  scanner : Scanner
  nodes : Array Node := #[]
  anchors : List (String × Nat) := []
  handles : List (String × String) := []

/-- Readers of parts of a document. -/
abbrev Reader := StateT Reading (Except Error)

/-- The next token. -/
def peek : Reader (Option Token) := do
  let r ← get
  let (token, scanner) ← r.scanner.next?
  set { r with scanner }
  return token

/-- The next token passed over. -/
def drop : Reader Unit :=
  modify fun r => { r with scanner := r.scanner.drop }

/-- Whether the next token is one of some. -/
def isNext (ts : List Token) : Reader Bool := do
  match ← peek with
  | some t => return ts.contains t
  | none => return false

/-- The next token, which has to be `t`, passed over. -/
def expect (t : Token) : Reader Unit := do
  if ← isNext [t] then drop else throw .malformed

/-- A node added; its number. -/
def add (node : Node) : Reader Nat := do
  let r ← get
  set { r with nodes := r.nodes.push node }
  return r.nodes.size

/-- A node put in the place of another. -/
def put (number : Nat) (node : Node) : Reader Unit :=
  modify fun r => { r with nodes := r.nodes.setIfInBounds number node }

/-- The node that stands where nothing is written. -/
def addNothing : Reader Nat :=
  add (.scalar .null "")

/-- The meaning of tag handles unless directives change it. -/
def defaultHandles : List (String × String) :=
  [("!", "!"), ("!!", Tag.family)]

/-- The name of a tag in full; the lone `!` asks for what the content implies. -/
def fullName (handle : Option String) (rest : String) : Reader (Option String) := do
  match handle with
  | none => return if rest = "!" then none else some rest
  | some handle =>
    match ((← get).handles ++ defaultHandles).lookup handle with
    | some expansion => return some (expansion ++ rest)
    | none => throw .malformed

/-- What stands before the content of a node: an anchor, and a tag with its full name, in either
order. -/
structure Properties where
  anchor : Option String := none
  tagged : Bool := false
  tagName : Option String := none

namespace Properties

/-- Whether anything is written. -/
def isWritten (p : Properties) : Bool :=
  p.anchor.isSome || p.tagged

/-- The tag of a node that has another one where none is written. -/
def tagOr (p : Properties) (implied : Tag) : Tag :=
  match p.tagName with
  | some name => Tag.ofName name
  | none => implied

/-- The tag of a scalar. Unless it is plain or has the lone `!`, it is text. -/
def scalarTag (p : Properties) (text : String) (plain : Bool) : Tag :=
  p.tagOr (if plain || p.tagged then impliedTag text else .text)

end Properties

/-- The properties of a node. The tag is understood once all of them are read. -/
def takeProperties : Reader Properties := do
  match ← peek with
  | some (.anchor name) =>
    drop
    match ← peek with
    | some (.tag handle rest) =>
      drop
      return { anchor := some name, tagged := true, tagName := ← fullName handle rest }
    | _ => return { anchor := some name }
  | some (.tag handle rest) =>
    drop
    let anchor ← do
      match ← peek with
      | some (.anchor name) =>
        drop
        pure (some name)
      | _ => pure none
    return { anchor, tagged := true, tagName := ← fullName handle rest }
  | _ => return {}

/-- A node added under the name that its anchor gives it. A name can be given once. -/
def addNamed (p : Properties) (node : Node) : Reader Nat := do
  match p.anchor with
  | none => add node
  | some anchor =>
    if ((← get).anchors.lookup anchor).isSome then throw .malformed
    let number ← add node
    modify fun r => { r with anchors := (anchor, number) :: r.anchors }
    return number

/-- A sequence of the items that a reader finds. It can be named by its items. -/
def addSequence (p : Properties) (items : Reader (List Nat)) : Reader Nat := do
  let tag := p.tagOr .sequence
  let number ← addNamed p (.sequence tag [])
  put number (.sequence tag (← items))
  return number

/-- A mapping of the entries that a reader finds. It can be named by its entries. -/
def addMapping (p : Properties) (entries : Reader (List (Nat × Nat))) : Reader Nat := do
  let tag := p.tagOr .mapping
  let number ← addNamed p (.mapping tag [])
  put number (.mapping tag (← entries))
  return number

mutual

/-- A node. In block context it may be a block collection, and after a key in block context a
sequence that is not indented. -/
def takeNode (fuel : Nat) (block indentless : Bool) : Reader Nat := do
  match fuel with
  | 0 => throw .malformed
  | fuel + 1 =>
    match ← peek with
    | some (.alias name) =>
      drop
      match (← get).anchors.lookup name with
      | some node => return node
      | none => throw .malformed
    | _ =>
      let p ← takeProperties
      match ← peek with
      | some (.scalar text plain) =>
        drop
        addNamed p (.scalar (p.scalarTag text plain) text)
      | some .flowSequenceStart =>
        drop
        addSequence p (takeFlowItems fuel true)
      | some .flowMappingStart =>
        drop
        addMapping p (takeFlowEntries fuel true)
      | some .entry =>
        if indentless then addSequence p (takeIndentlessItems fuel) else takeEmpty p
      | some .blockSequenceStart =>
        if block then
          drop
          addSequence p (takeBlockItems fuel)
        else takeEmpty p
      | some .blockMappingStart =>
        if block then
          drop
          addMapping p (takeBlockEntries fuel)
        else takeEmpty p
      | _ => takeEmpty p

/-- A node of which only properties are written. -/
def takeEmpty (p : Properties) : Reader Nat :=
  if p.isWritten then addNamed p (.scalar (p.tagOr .null) "") else throw .malformed

/-- A node, or nothing if one of some tokens comes next. -/
def takeNodeUnless (fuel : Nat) (block indentless : Bool) (ends : List Token) : Reader Nat := do
  match fuel with
  | 0 => throw .malformed
  | fuel + 1 => if ← isNext ends then addNothing else takeNode fuel block indentless

/-- The items of a block sequence and its end. -/
def takeBlockItems (fuel : Nat) : Reader (List Nat) := do
  match fuel with
  | 0 => throw .malformed
  | fuel + 1 =>
    if ← isNext [.entry] then
      drop
      let item ← takeNodeUnless fuel true false [.entry, .blockEnd]
      return item :: (← takeBlockItems fuel)
    else
      expect .blockEnd
      return []

/-- The items of a sequence that is not indented. -/
def takeIndentlessItems (fuel : Nat) : Reader (List Nat) := do
  match fuel with
  | 0 => throw .malformed
  | fuel + 1 =>
    if ← isNext [.entry] then
      drop
      let item ← takeNodeUnless fuel true false [.entry, .key, .value, .blockEnd]
      return item :: (← takeIndentlessItems fuel)
    else return []

/-- The entries of a block mapping and its end. -/
def takeBlockEntries (fuel : Nat) : Reader (List (Nat × Nat)) := do
  match fuel with
  | 0 => throw .malformed
  | fuel + 1 =>
    if ← isNext [.blockEnd] then
      drop
      return []
    else
      expect .key
      let key ← takeNodeUnless fuel true true [.key, .value, .blockEnd]
      let value ← takeValueUnless fuel true [.key, .value, .blockEnd]
      return (key, value) :: (← takeBlockEntries fuel)

/-- A value behind its mark, or nothing if there is no mark. -/
def takeValueUnless (fuel : Nat) (block : Bool) (ends : List Token) : Reader Nat := do
  match fuel with
  | 0 => throw .malformed
  | fuel + 1 =>
    if ← isNext [.value] then
      drop
      takeNodeUnless fuel block block ends
    else addNothing

/-- The items of a flow sequence and its end. A key makes an item a mapping with one entry. -/
def takeFlowItems (fuel : Nat) (first : Bool) : Reader (List Nat) := do
  match fuel with
  | 0 => throw .malformed
  | fuel + 1 =>
    if ← isNext [.flowSequenceEnd] then
      drop
      return []
    else
      if !first then expect .flowEntry
      if ← isNext [.key] then
        let item ← addMapping {} do
          drop
          let key ← takeNodeUnless fuel false false [.value, .flowEntry, .flowSequenceEnd]
          let value ← takeValueUnless fuel false [.flowEntry, .flowSequenceEnd]
          return [(key, value)]
        return item :: (← takeFlowItems fuel false)
      else if ← isNext [.flowSequenceEnd] then
        drop
        return []
      else
        let item ← takeNode fuel false false
        return item :: (← takeFlowItems fuel false)

/-- The entries of a flow mapping and its end. -/
def takeFlowEntries (fuel : Nat) (first : Bool) : Reader (List (Nat × Nat)) := do
  match fuel with
  | 0 => throw .malformed
  | fuel + 1 =>
    if ← isNext [.flowMappingEnd] then
      drop
      return []
    else
      if !first then expect .flowEntry
      if ← isNext [.key] then
        drop
        let key ← takeNodeUnless fuel false false [.value, .flowEntry, .flowMappingEnd]
        let value ← takeValueUnless fuel false [.flowEntry, .flowMappingEnd]
        return (key, value) :: (← takeFlowEntries fuel false)
      else if ← isNext [.flowMappingEnd] then
        drop
        return []
      else
        let key ← takeNode fuel false false
        let value ← addNothing
        return (key, value) :: (← takeFlowEntries fuel false)

end

/-- Directives before a document: at most one version, and that `1`, and each handle once. Answers
whether there were any. -/
def takeDirectives : Nat → (version : Bool) → Reader Bool
  | 0, _ => throw .malformed
  | fuel + 1, version => do
    match ← peek with
    | some (.versionDirective major _) =>
      if version || major != 1 then throw .malformed
      drop
      let _ ← takeDirectives fuel true
      return true
    | some (.tagDirective handle expansion) =>
      if ((← get).handles.lookup handle).isSome then throw .malformed
      drop
      modify fun r => { r with handles := (handle, expansion) :: r.handles }
      let _ ← takeDirectives fuel version
      return true
    | some .otherDirective =>
      drop
      let _ ← takeDirectives fuel version
      return true
    | _ => return false

/-- Document ends passed over. -/
def dropEnds : Nat → Reader Unit
  | 0 => return
  | fuel + 1 => do
    if ← isNext [.documentEnd] then
      drop
      dropEnds fuel

/-- The number of the root of the only document. -/
def takeDocument (fuel : Nat) : Reader (Option Nat) := do
  if (← peek).isNone then return none
  let directives ← takeDirectives fuel false
  let isExplicit ← isNext [.documentStart]
  if directives && !isExplicit then throw .malformed
  let root ←
    if isExplicit then do
      drop
      match ← peek with
      | none | some .documentStart | some .documentEnd | some .otherDirective
      | some (.versionDirective ..) | some (.tagDirective ..) => addNothing
      | _ => takeNode fuel true false
    else takeNode fuel true false
  dropEnds fuel
  if (← peek).isSome then
    modify fun r => { r with handles := [] }
    let _ ← takeDirectives fuel false
    throw .malformed
  return some root

end Node

/-- The graph of the only document of a text, if there is a document. -/
def Graph.ofText? (text : List Char) : Except Error (Option Graph) := do
  let fuel := 16 * text.length + 16
  let (root, reading) ← (Node.takeDocument fuel).run { scanner := .ofText text }
  return root.map fun root => { nodes := reading.nodes, root }

end TaskShell.Yaml
