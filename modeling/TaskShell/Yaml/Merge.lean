import TaskShell.Yaml.Node

/-!
# Merged mappings

Under the key `<<` a mapping names other mappings, whose entries come before its own; of several in
a sequence the last one comes first. The names are resolved in the graph, once for each mapping, so
that a mapping that occurs twice is merged once, and one that names itself has its other entries
twice.

## Main definitions

* `Yaml.mergedEntries` — the entries that mappings named by a mapping bring.
* `Yaml.flatten` — a mapping with the entries merged into it.
-/

set_option autoImplicit false

namespace TaskShell.Yaml

/-- Changes of the nodes of a graph. -/
abbrev Rewriter := StateT (Array Node) (Except Error)

namespace Rewriter

/-- The node with a number. -/
def node (number : Nat) : Rewriter Node :=
  return (← get).getD number default

/-- The entries of a mapping. -/
def entries (number : Nat) : Rewriter (List (Nat × Nat)) := do
  match ← node number with
  | .mapping _ entries => return entries
  | _ => throw .malformed

/-- The entries of a mapping replaced. -/
def setEntries (number : Nat) (entries : List (Nat × Nat)) : Rewriter Unit := do
  match ← node number with
  | .mapping tag _ => modify fun nodes => nodes.setIfInBounds number (.mapping tag entries)
  | _ => throw .malformed

/-- The key `=`, which is a text where it is a key. -/
def plainKey (number : Nat) : Rewriter Unit := do
  let key ← node number
  if key.tag = .default then
    modify fun nodes => nodes.setIfInBounds number (key.withTag .text)

/-- The first entry under a merge key: what it names, and the entries without it. -/
def takeMerge? : List (Nat × Nat) → Rewriter (Option (Nat × List (Nat × Nat)))
  | [] => return none
  | (key, value) :: rest => do
    if (← node key).tag = .merge then return some (value, rest)
    else return (← takeMerge? rest).map fun (named, rest) => (named, (key, value) :: rest)

end Rewriter

open Rewriter

mutual

/-- The entries that the mappings named by a mapping bring. Its merge keys are removed. -/
def mergedEntries (fuel number : Nat) : Rewriter (List (Nat × Nat)) := do
  match fuel with
  | 0 => return []
  | fuel + 1 =>
    match ← takeMerge? (← entries number) with
    | none => return []
    | some (named, rest) =>
      setEntries number rest
      let first ← broughtBy fuel named
      return first ++ (← mergedEntries fuel number)

/-- The entries that a value under a merge key brings: those of a mapping, or of all mappings of a
sequence. -/
def broughtBy (fuel named : Nat) : Rewriter (List (Nat × Nat)) := do
  match fuel with
  | 0 => return []
  | fuel + 1 =>
    match ← node named with
    | .mapping .. =>
      flatten fuel named
      entries named
    | .sequence _ items =>
      let brought ← items.mapM fun item => do
        flatten fuel item
        entries item
      return brought.reverse.flatten
    | .scalar .. => throw .malformed

/-- A mapping with the entries merged into it. -/
def flatten (fuel number : Nat) : Rewriter Unit := do
  match fuel with
  | 0 => return
  | fuel + 1 =>
    let merged ← mergedEntries fuel number
    let own ← entries number
    own.forM fun (key, _) => plainKey key
    setEntries number (merged ++ own)

end

/-- The number of entries in a graph, which bounds that of merge keys. -/
def entryCount (nodes : Array Node) : Nat :=
  nodes.foldl (fun n node =>
    match node with
    | .mapping _ entries => n + entries.length
    | _ => n) 0

end TaskShell.Yaml
