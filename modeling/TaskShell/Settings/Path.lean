import TaskShell.Entries
import TaskShell.Text.Words

/-!
# File paths

Paths are kept in a tidy form: no empty parts, no `.` parts, at most one slash at the start, or
two if there were exactly two. A leading `~` or `~NAME` stands for a home directory.

## Main definitions

* `Path` — the root of a path and its parts.
* `Path.ofText`, `Path.text` — reading and writing.
* `Home`, `Path.expand?` — home directories, and a path with its leading `~` replaced.
-/

set_option autoImplicit false

namespace TaskShell

/-- A path: the slashes that it begins with, and its parts. -/
structure Path where
  root : String
  parts : List String
  deriving DecidableEq, Repr, Inhabited

namespace Path

/-- The slashes that a text keeps at its start. -/
def rootOf (cs : List Char) : String :=
  match (cs.takeWhile (· == '/')).length with
  | 0 => ""
  | 2 => "//"
  | _ => "/"

/-- A path from a text. -/
def ofText (s : String) : Path :=
  ⟨rootOf s.toList, (Text.cut '/' s).filter fun part => part != "" && part != "."⟩

/-- The text of a path; an empty one is `.`. -/
def text (p : Path) : String :=
  if p.root = "" ∧ p.parts.isEmpty then "." else p.root ++ Text.join "/" p.parts

end Path

/-- Home directories: the user's own, and those of accounts by name. -/
structure Home where
  own : String
  accounts : Entries String := []
  deriving Repr, Inhabited

namespace Home

/-- A directory without slashes at its end; the root keeps one. -/
def trimmed (directory : String) : String :=
  let cs := Chars.dropEnd (· == '/') directory.toList
  if cs.isEmpty then "/" else String.ofList cs

/-- The home directories of a list of accounts. A line holds seven parts between colons; the first
is the name, the sixth the directory. -/
def ofAccountList (text : String) : Entries String :=
  (Text.cut '\n' text).filterMap fun line =>
    match Text.cut ':' line with
    | [name, _, _, _, _, directory, _] => some (name, directory)
    | _ => none

/-- The home directory that `~` or `~NAME` stands for. -/
def directory? (home : Home) (name : List Char) : Option String :=
  if name.isEmpty then some (trimmed home.own)
  else (home.accounts.value? (String.ofList name)).map trimmed

end Home

namespace Path

/-- Whether a path asks for the home directory of an account with a null character in its name. -/
def namesNull (p : Path) : Bool :=
  match p.root, p.parts with
  | "", part :: _ =>
    match part.toList with
    | '~' :: name => name.contains '\x00'
    | _ => false
  | _, _ => false

/-- A path with its leading `~` replaced, unless the home directory cannot be told. -/
def expand? (home : Home) (p : Path) : Option Path :=
  match p.root, p.parts with
  | "", part :: rest =>
    match part.toList with
    | '~' :: name =>
      match home.directory? name with
      | some directory =>
        if directory.toList.head? = some '~' then none
        else
          let base := ofText directory
          some ⟨base.root, base.parts ++ rest⟩
      | none => none
    | _ => some p
  | _, _ => some p

end Path

end TaskShell
