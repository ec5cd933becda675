import TaskShell.Number.Shortest
import TaskShell.Text.Literal
import TaskShell.Text.Words
import TaskShell.Value.Basic

/-!
# Showing values

## Main definitions

* `Value.literal` — a value inside a collection: texts are quoted.
* `Value.display` — a value on its own: texts are bare.
* `Value.shown` — a field in a record listing: lists are joined by commas and whole numbers lose
  their fraction.
-/

set_option autoImplicit false

namespace TaskShell.Value

mutual

/-- A value as it stands inside a collection. -/
def literal : Value → String
  | .null => "None"
  | .bool true => "True"
  | .bool false => "False"
  | .int value => toString value
  | .float value => value.text
  | .text value => Text.literal value
  | .list items => "[" ++ Text.join ", " (literals items) ++ "]"
  | .map entries => "\x7b" ++ Text.join ", " (entryLiterals entries) ++ "\x7d"

/-- The literals of the items of a list. -/
def literals : List Value → List String
  | [] => []
  | item :: items => literal item :: literals items

/-- The literals of the entries of a map. -/
def entryLiterals : List (Value × Value) → List String
  | [] => []
  | (key, value) :: entries => (literal key ++ ": " ++ literal value) :: entryLiterals entries

end

/-- A value on its own. -/
def display : Value → String
  | .text value => value
  | value => value.literal

/-- A field in a record listing. -/
def shown : Value → String
  | .list items => Text.join ", " (items.map display)
  | .float value =>
    if value.isInteger then
      match value.truncate? with
      | some n => toString n
      | none => value.text
    else value.text
  | value => value.display

end TaskShell.Value
