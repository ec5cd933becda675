import TaskShell.Command.Token

/-!
# Command lines from arguments

Arguments that a shell has already split are joined to a line whose tokens are those arguments
again: what holds a blank or a quote is quoted, and of `key:value` and `--key=value` only the
value.

## Main definitions

* `Command.quote` — a text between quotes.
* `Command.joinArguments` — the line for a list of arguments.
-/

set_option autoImplicit false

namespace TaskShell.Command

/-- A text between double quotes, or between single ones if it holds a double one. -/
def quote (cs : List Char) : List Char :=
  let mark := if cs.contains '"' then '\'' else '"'
  mark :: cs ++ [mark]

/-- The part of an argument up to its value, and the value: the forms are `--key=value`,
`-key=value` and `key:value`. -/
def splitAssignment? (cs : List Char) : Option (List Char × List Char) :=
  match Token.takeKey cs with
  | ('-' :: k :: key, '=' :: value) => some ('-' :: k :: key ++ ['='], value)
  | (k :: key, ':' :: value) => some (k :: key ++ [':'], value)
  | _ => none

/-- An argument as it stands in the line. -/
def argumentText (cs : List Char) : List Char :=
  if cs.any fun c => Text.isBlank c || Token.isQuote c then
    match splitAssignment? cs with
    | some (head, value) => head ++ quote value
    | none => quote cs
  else cs

/-- The line for a list of arguments. -/
def joinArguments (arguments : List String) : String :=
  Text.join " " (arguments.map fun a => String.ofList (argumentText a.toList))

end TaskShell.Command
