/-!
# Tags of YAML nodes

A tag tells what a node is meant to be. The ones below are those of the basic schema; every other
tag is unknown.

## Main definitions

* `Yaml.Tag` — the tags.
* `Yaml.Tag.ofName` — the tag with a full name.
-/

set_option autoImplicit false

namespace TaskShell.Yaml

/-- Tags. `merge` and `default` are the two marks `<<` and `=` of mappings; `pairs` are lists of
single entries. -/
inductive Tag
  | null
  | bool
  | int
  | float
  | binary
  | timestamp
  | text
  | merge
  | default
  | sequence
  | pairs
  | mapping
  | set
  | unknown
  deriving DecidableEq, Repr, Inhabited

namespace Tag

/-- What the names of the basic tags begin with. -/
def family : String := "tag:yaml.org,2002:"

/-- The basic tags by the ends of their names. -/
def basic : List (String × Tag) :=
  [("null", .null), ("bool", .bool), ("int", .int), ("float", .float), ("binary", .binary),
   ("timestamp", .timestamp), ("str", .text), ("merge", .merge), ("value", .default),
   ("seq", .sequence), ("omap", .pairs), ("pairs", .pairs), ("map", .mapping), ("set", .set)]

/-- The tag with a full name. -/
def ofName (name : String) : Tag :=
  match basic.find? fun (ending, _) => family ++ ending == name with
  | some (_, tag) => tag
  | none => .unknown

end Tag

end TaskShell.Yaml
