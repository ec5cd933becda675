import TaskShell.Command.Token
import TaskShell.Text.Case

/-!
# Shortcuts

Short inputs that stand for full commands. A shortcut is recognised on the whole line, before the
line is split into tokens, in any letter case and with any blanks between its words. The user's
own aliases, single words, are consulted first.

## Main definitions

* `Shortcut.expand` — the command line that an input stands for.
* `Shortcut.complete` — the known commands that begin with a text.
-/

set_option autoImplicit false

namespace TaskShell.Shortcut

open TaskShell.Text

/-- The letter of the basic alphabet that a keyword reads a character as: its lower case, and
besides the dotted and dotless relatives of `i`, the long `s` and the sign of kelvin. -/
def keyLetter (c : Char) : Char :=
  if 'A' ≤ c ∧ c ≤ 'Z' then Char.ofNat (c.toNat + 32)
  else if c = 'İ' ∨ c = 'ı' then 'i'
  else if c = 'ſ' then 's'
  else if c = '\u212a' then 'k'
  else c

/-- Whether a text reads as one of some keywords. -/
def isKeyword (words : List String) (cs : List Char) : Bool :=
  words.contains (String.ofList (cs.map keyLetter))

/-- The first word of a text and the text after the blanks behind it. -/
def takeWord (cs : List Char) : List Char × List Char :=
  let word := cs.takeWhile fun c => !isBlank c
  (word, (cs.drop word.length).dropWhile isBlank)

/-- A text without a pair of equal quotes around it. -/
def unquote (cs : List Char) : List Char :=
  match cs with
  | mark :: rest =>
    if Token.isQuote mark && !rest.isEmpty && rest.getLast? == some mark then rest.dropLast else cs
  | [] => []

/-- The words of a kind of records in a shortcut that lists them, and the plural to list. -/
def listings : List (List String × String) :=
  [(["prg", "program", "programs"], "programs"), (["prj", "project", "projects"], "projects"),
   (["tsk", "task", "tasks"], "tasks"), (["sub", "subtask", "subtasks"], "subtasks")]

/-- The words of a kind of records in a shortcut that creates one, and its name. -/
def creations : List (List String × String) :=
  [(["prg", "program"], "program"), (["prj", "project"], "project"),
   (["tsk", "task"], "task"), (["sub", "subtask"], "subtask")]

/-- The entry of the first group of words that a text reads as. -/
def lookup? (groups : List (List String × String)) (cs : List Char) : Option String :=
  (groups.find? fun group => isKeyword group.1 cs).map Prod.snd

/-- `prg` and its like list a kind of records. -/
def listing? (line : List Char) : Option String :=
  (lookup? listings line).map fun name => "list " ++ name

/-- `add task Fix it` creates a record; the title is the rest of the line. -/
def creation? (line : List Char) : Option String :=
  let (verb, rest) := takeWord line
  let (kind, title) := takeWord rest
  if isKeyword ["install", "add"] verb && !title.isEmpty && !title.contains '\n' then
    (lookup? creations kind).map fun name =>
      "create " ++ name ++ " \"" ++ String.ofList (unquote title) ++ "\""
  else none

/-- `done task ID` and `start task ID` set the status of a task. -/
def progress? (line : List Char) : Option String :=
  let (verb, rest) := takeWord line
  let (kind, id) := takeWord rest
  if isKeyword ["tsk", "task"] kind && !id.isEmpty && !id.any isBlank then
    if isKeyword ["done"] verb then
      some ("update task " ++ String.ofList id ++ " status:completed")
    else if isKeyword ["start"] verb then
      some ("update task " ++ String.ofList id ++ " status:active")
    else none
  else none

/-- `man unfold` opens the manual. -/
def manual? (line : List Char) : Option String :=
  let (verb, topic) := takeWord line
  if isKeyword ["man"] verb && isKeyword ["unfold"] topic then some "man" else none

/-- `help TOPIC` opens a page of the manual. -/
def topic? (line : List Char) : Option String :=
  let (verb, topic) := takeWord line
  if isKeyword ["help"] verb && !topic.isEmpty && topic.all isWord then
    some ("man " ++ String.ofList topic)
  else none

/-- The command line that a built-in shortcut, without blanks around it, stands for. -/
def builtin? (line : List Char) : Option String :=
  (listing? line).or <| (creation? line).or <| (progress? line).or <|
    (manual? line).or (topic? line)

/-- The command line that an input stands for: itself, if it is no shortcut. -/
def expand (aliases : Entries String) (line : String) : String :=
  let trimmed := Chars.trim line.toList
  match (aliases.value? (String.ofList (Chars.lower trimmed))).filter (· != "") with
  | some command => command
  | none => (builtin? trimmed).getD line

/-- The commands that completion offers. -/
def known : List String :=
  ["list programs", "list projects", "list tasks", "list subtasks", "create task",
   "create program", "create project", "create subtask", "info task", "remove task",
   "update task", "search tasks", "use program", "use project", "prg", "prj", "tsk", "sub",
   "help", "history", "man", "man list", "man create"]

/-- The first `limit` items of a list, or all but the last `-limit` if the limit is negative. -/
def takeLimit (limit : Int) (items : List String) : List String :=
  if limit < 0 then items.take (items.length - (-limit).toNat) else items.take limit.toNat

/-- The known commands that begin with a text, letter case of the text aside. -/
def complete (stem : String) (limit : Int := 5) : List String :=
  let lowered := Chars.lower stem.toList
  takeLimit limit (known.filter fun command => lowered.isPrefixOf command.toList)

end TaskShell.Shortcut
