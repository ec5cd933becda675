import TaskShell.Command.Basic

/-!
# Tokens of a command line

Blanks separate tokens. A quote character opens a span up to the next one of its kind, in which
everything stands for itself; the quotes are dropped, and there are no escapes. Spans and plain
characters that touch make one token, and a token that begins with a quote is always positional.
Any other token is a flag `--key=value`, `--key` or `-k`, a pair `key:value`, or positional.

## Main definitions

* `Token.split` — the tokens of a line.
* `Token.flag?`, `Token.pair?` — the two forms that set a flag.
* `Command.ofLine` — the command that a line spells.
-/

set_option autoImplicit false

namespace TaskShell

/-- A token: its characters without quotes, and whether it begins with a quote. -/
structure Token where
  text : List Char
  quoted : Bool
  deriving DecidableEq, Repr

namespace Token

/-- Whether a character opens and closes quoted spans. -/
def isQuote (c : Char) : Bool :=
  c == '"' || c == '\''

/-- Where the reading of a line stands: between tokens, in the plain part of a token, or in a span
that `mark` closes. The characters of the token so far are held in reverse. -/
inductive Place
  | between
  | plain (quoted : Bool) (sofar : List Char)
  | span (mark : Char) (quoted : Bool) (sofar : List Char)
  deriving Repr

/-- The tokens of a text that begins at a place. A span that is still open at the end is closed. -/
def splitFrom : Place → List Char → List Token
  | .between, [] => []
  | .plain quoted sofar, [] => [⟨sofar.reverse, quoted⟩]
  | .span _ quoted sofar, [] => [⟨sofar.reverse, quoted⟩]
  | .between, c :: cs =>
    if isQuote c then splitFrom (.span c true []) cs
    else if Text.isBlank c then splitFrom .between cs
    else splitFrom (.plain false [c]) cs
  | .plain quoted sofar, c :: cs =>
    if isQuote c then splitFrom (.span c quoted sofar) cs
    else if Text.isBlank c then ⟨sofar.reverse, quoted⟩ :: splitFrom .between cs
    else splitFrom (.plain quoted (c :: sofar)) cs
  | .span mark quoted sofar, c :: cs =>
    if c = mark then splitFrom (.plain quoted sofar) cs
    else splitFrom (.span mark quoted (c :: sofar)) cs

/-- The tokens of a line. -/
def split (line : List Char) : List Token :=
  splitFrom .between line

/-- The texts of the tokens of a line. -/
def texts (line : String) : List String :=
  (split line.toList).map fun token => String.ofList token.text

/-! ## Tokens that set flags -/

/-- A flag and its value. -/
abbrev Setting := List Char × List Char

/-- The longest run of key characters, and the rest. -/
def takeKey (cs : List Char) : List Char × List Char :=
  (cs.takeWhile Text.isKey, cs.dropWhile Text.isKey)

/-- A key with `=` and a value, or alone with the value `true`. A line end after a lone key is
passed over. -/
def keyValue? (cs : List Char) : Option Setting :=
  match takeKey cs with
  | ([], _) => none
  | (key, []) => some (key, "true".toList)
  | (key, ['\n']) => some (key, "true".toList)
  | (key, '=' :: value) => some (key, value)
  | _ => none

/-- The flag that a text spells: one or two dashes and a key. The second dash belongs to the key
where no key follows it. -/
def flag? : List Char → Option Setting
  | '-' :: '-' :: cs => (keyValue? cs).or (keyValue? ('-' :: cs))
  | '-' :: cs => keyValue? cs
  | _ => none

/-- The pair that a text spells: a key, a colon and a value that is not empty. -/
def pair? (cs : List Char) : Option Setting :=
  match takeKey cs with
  | ([], _) => none
  | (key, ':' :: c :: value) => some (key, c :: value)
  | _ => none

/-- The flag that a token sets, if it is not positional. -/
def setting? (token : Token) : Option Setting :=
  if token.quoted then none else (flag? token.text).or (pair? token.text)

end Token

namespace Command

/-- The flags that tokens set, in order. -/
def flagsOf (tokens : List Token) : Entries String :=
  .ofPairs (tokens.filterMap fun token =>
    token.setting?.map fun (key, value) => (String.ofList key, String.ofList value))

/-- The texts of the positional tokens. -/
def positionals (tokens : List Token) : List String :=
  (tokens.filter fun token => token.setting?.isNone).map fun token => String.ofList token.text

/-- The command that a line spells. Positional tokens after the third are dropped. -/
def ofLine (line : String) : Command :=
  let tokens := Token.split (Chars.trim line.toList)
  let words := positionals tokens
  { verb := words[0]?, entity := words[1]?, target := words[2]?,
    flags := flagsOf tokens, raw := line }

end Command

end TaskShell
