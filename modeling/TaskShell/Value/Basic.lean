import TaskShell.Entries
import TaskShell.Number.Binary64

/-!
# Values

The dynamic values that records and settings hold.

## Main definitions

* `Value` — null, truth values, numbers, text, lists and maps.
* `Value.isGiven` — whether a value counts as given.
* `Fields` — the fields of a record.
-/

set_option autoImplicit false

namespace TaskShell

/-- A value of a record field or a setting. -/
inductive Value
  | null
  | bool (value : Bool)
  | int (value : Int)
  | float (value : Binary64)
  | text (value : String)
  | list (items : List Value)
  | map (entries : List (Value × Value))
  deriving Repr, Inhabited

/-- The fields of a record, in order. -/
abbrev Fields := Entries Value

namespace Value

/-- Whether a value counts as given: null, false, zero and whatever is empty do not. -/
def isGiven : Value → Bool
  | .null => false
  | .bool value => value
  | .int value => value != 0
  | .float value => !value.isZero
  | .text value => value != ""
  | .list items => !items.isEmpty
  | .map entries => !entries.isEmpty

/-- Whether a field with this value is left out when a record is shown: null, the empty text and
the empty list are. -/
def isHidden : Value → Bool
  | .null => true
  | .text value => value == ""
  | .list items => items.isEmpty
  | _ => false

/-- A text or null. -/
def ofText? : Option String → Value
  | some s => .text s
  | none => .null

/-- A map with text keys. -/
def ofFields (fields : Fields) : Value :=
  .map (fields.map fun (key, value) => (.text key, value))

/-- The entry of a map whose key is a text. -/
def textEntry? : Value × Value → Option (String × Value)
  | (.text key, value) => some (key, value)
  | _ => none

end Value

end TaskShell
