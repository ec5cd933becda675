import TaskShell.Command.Basic
import TaskShell.Number.Reader
import TaskShell.Text.Case
import TaskShell.Value.Display

/-!
# Filters

Which records of a kind a listing shows.

## Main definitions

* `Filter` — conditions on parent, status and priority, and a limit.
* `Filter.ofCommand` — the filter that the flags of a command ask for.
* `Filter.apply` — the records that a filter lets through.
* `Filter.contains` — whether a record holds a text that is searched for.
-/

set_option autoImplicit false

namespace TaskShell

/-- Conditions on records, and the most records to show. -/
structure Filter where
  parent : Option String := none
  status : Option String := none
  priority : Option String := none
  limit : Option Nat := none
  deriving DecidableEq, Repr, Inhabited

namespace Filter

/-- A limit: a whole number that is at least one. -/
def readLimit? (raw : String) : Option Nat :=
  match Number.readInt? raw with
  | some n => if 1 ≤ n then some n.toNat else none
  | none => none

/-- The limit among flags, if there is one; the text of a limit that cannot be read. -/
def limitOf (flags : Entries String) : Except String (Option Nat) :=
  match flags.value? "limit" with
  | none => .ok none
  | some raw =>
    match readLimit? raw with
    | some n => .ok (some n)
    | none => .error raw

/-- The filter that the flags of a command ask for; the text of a limit that cannot be read. -/
def ofCommand (c : Command) : Except String Filter := do
  let limit ← limitOf c.flags
  return { parent := c.flag? ["parentId", "parent"],
           status := (c.flagValue? "status").map Text.lower,
           priority := (c.flagValue? "priority").map Text.lower,
           limit }

/-- The filter as fields. -/
def fields (f : Filter) : Fields :=
  f.parent.toList.map (fun s => ("parentId", .text s)) ++
    f.status.toList.map (fun s => ("status", .text s)) ++
    f.priority.toList.map (fun s => ("priority", .text s)) ++
    f.limit.toList.map (fun n => ("limit", .int n))

/-- Whether a field of a record has an expected value, letter case aside. Any field has if none is
expected. -/
def agrees (record : Fields) (name : String) : Option String → Bool
  | none => true
  | some expected =>
    match Entries.value? record name with
    | none | some .null => false
    | some value => Text.lower value.display == Text.lower expected

/-- Whether a record meets the conditions. -/
def admits (f : Filter) (record : Fields) : Bool :=
  agrees record "parentId" f.parent && agrees record "status" f.status &&
    agrees record "priority" f.priority

/-- The records that meet the conditions, as many as the limit allows. -/
def apply (f : Filter) (records : List Fields) : List Fields :=
  let admitted := records.filter f.admits
  match f.limit with
  | some n => admitted.take n
  | none => admitted

/-- The lower-case text of a field, empty if it is not given. -/
def searchText (record : Fields) (name : String) : List Char :=
  match Entries.value? record name with
  | some value => if value.isGiven then Chars.lower value.display.toList else []
  | none => []

/-- Whether the title or the description of a record holds a text, letter case aside. -/
def contains (record : Fields) (query : String) : Bool :=
  let needle := Chars.lower query.toList
  ["title", "description"].any fun name => Text.occursIn needle (searchText record name)

end Filter

end TaskShell
