import TaskShell.Settings.Path
import TaskShell.Text.Hex

/-!
# Where a store is

The path of a store names a file, or memory. It can also be written as a resource name: `file:`, a
path in which `%` and two hexadecimal digits stand for a byte, and options after a question mark.
Whatever directories a path passes through, only the one that it ends in has to be there.

## Main definitions

* `StoreName` — what a path asks for.
* `OpenError` — why no store can be opened.
* `Path.isOverlong` — whether a path is too long to be followed.
* `Location` — where it leads, seen from a directory.
-/

set_option autoImplicit false

namespace TaskShell

/-- Why no store can be opened at a path: it holds a null character, it gives an option a value that
does not exist, it leads nowhere, what is there is no store, or may not become one. -/
inductive OpenError
  | nullCharacter
  | noSuch (kind value : String)
  | unreachable
  | notStore
  | readOnly
  deriving DecidableEq, Repr

/-- What the user is told. -/
def OpenError.message : OpenError → String
  | .nullCharacter => "embedded null byte"
  | .noSuch kind value => "no such " ++ kind ++ ": " ++ value
  | .unreachable => "unable to open database file"
  | .notStore => "file is not a database"
  | .readOnly => "attempt to write a readonly database"

/-- What may be done to the file of a store: it may be made, only changed, or only read. -/
inductive Access
  | make
  | change
  | read
  deriving DecidableEq, Repr

/-- What a path of a store asks for: a store in memory, or one in a file. -/
inductive StoreName
  | memory
  | file (path : String) (access : Access)
  deriving DecidableEq, Repr

namespace StoreName

/-- The bytes of a text with escapes. The escape of the null byte ends it. -/
def unescape : List Char → List UInt8
  | [] => []
  | '%' :: a :: b :: rest =>
    match Text.hexNumber? [a, b] with
    | some 0 => []
    | some byte => UInt8.ofNat byte :: unescape rest
    | none => 37 :: unescape (a :: b :: rest)
  | c :: rest => String.utf8EncodeChar c ++ unescape rest

/-- A text with escapes, if its bytes are a text. -/
def unescaped? (cs : List Char) : Option String :=
  String.fromUTF8? ⟨(unescape cs).toArray⟩

/-- The name of an option and its value. -/
def optionOf (cs : List Char) : String × String :=
  let part (cs : List Char) : String := (unescaped? cs).getD ""
  (part (cs.takeWhile (· != '=')), part ((cs.dropWhile (· != '=')).drop 1))

/-- The access that a mode allows; none to a file if the store is in memory. -/
def modes : Entries (Option Access) :=
  [("ro", some .read), ("rw", some .change), ("rwc", some .make), ("memory", none)]

/-- The ways in which a store can reach its file. -/
def fileSystems : List String := ["unix", "unix-none", "unix-dotfile", "unix-excl"]

/-- The access that the options of a resource name allow, the last one counting. -/
def accessOf (options : List (String × String)) : Except OpenError (Option Access) := do
  let access ← options.foldlM (fun (access : Option Access) (name, value) =>
    match name with
    | "mode" =>
      match modes.value? value with
      | some access => .ok access
      | none => .error (.noSuch "access mode" value)
    | "cache" =>
      if ["shared", "private"].contains value then .ok access
      else .error (.noSuch "cache mode" value)
    | _ => .ok access) (some .make)
  match (options.filter fun option => option.1 == "vfs").getLast? with
  | some (_, value) =>
    if fileSystems.contains value then return access else throw (.noSuch "vfs" value)
  | none => return access

/-- What a resource name asks for; the text after `file:` is given. -/
def ofResource (cs : List Char) : Except OpenError StoreName := do
  let cs := cs.takeWhile (· != '#')
  let options := Chars.cut '&' ((cs.dropWhile (· != '?')).drop 1)
  match ← accessOf (options.map optionOf), unescaped? (cs.takeWhile (· != '?')) with
  | none, _ => return .memory
  | some access, some path =>
    return if path = "" ∨ path = ":memory:" then .memory else .file path access
  | some _, none => throw .unreachable

/-- What a path asks for. -/
def ofPath (path : String) : Except OpenError StoreName :=
  if path.toList.contains '\x00' then .error .nullCharacter
  else
    match path.toList with
    | 'f' :: 'i' :: 'l' :: 'e' :: ':' :: cs => ofResource cs
    | _ => .ok (if path = ":memory:" then .memory else .file path .make)

end StoreName

namespace Path

/-- The most bytes of a file name. -/
def nameLimit : Nat := 255

/-- The most bytes of a path. -/
def byteLimit : Nat := 4095

/-- Whether a path is too long to be followed: all of it is, or the first name on it. -/
def isOverlong (p : Path) : Bool :=
  byteLimit < p.text.utf8ByteSize ||
    (p.parts.dropWhile (· == "..")).head?.any fun name => nameLimit < name.utf8ByteSize

end Path

/-- Where a store is, seen from a directory: in memory, where nothing is kept and no operation finds
its table; in a file; in a file whose name leaves no room for the name of its journal, so that it
can be made but not written; or in no place that can hold a file. -/
inductive Location
  | memory
  | file (name : String) (access : Access)
  | cramped (name : String)
  | nowhere
  deriving DecidableEq, Repr

namespace Location

/-- What is added to the name of a file to name its journal. -/
def journalEnding : String := "-journal"

/-- The parts of a path, followed one by one from a directory: the levels that it leads up, and the
names that it then leads down, last one first. A name cannot be too long, nor follow the name of a
file. -/
def follow? (isFile : String → Bool) (up : Nat) (down : List String) :
    List String → Option (Nat × List String)
  | [] => some (up, down)
  | ".." :: parts =>
    match down with
    | [] => follow? isFile (up + 1) [] parts
    | _ :: down => follow? isFile up down parts
  | name :: parts =>
    if Path.nameLimit < name.utf8ByteSize || (down.length == 1 && up == 0 && down.any isFile) then none
    else follow? isFile up (name :: down) parts

/-- The place of a file. -/
def ofFile (isFile : String → Bool) (path : String) (access : Access) : Location :=
  let p := Path.ofText path
  match p.root, follow? isFile 0 [] p.parts with
  | "", some (up, [name]) =>
    let place := Text.join "/" (List.replicate up ".." ++ [name])
    if Path.nameLimit < name.utf8ByteSize + journalEnding.utf8ByteSize then .cramped place
    else .file place access
  | _, _ => .nowhere

/-- Where a path leads. -/
def ofPath (isFile : String → Bool) (path : String) : Except OpenError Location := do
  match ← StoreName.ofPath (Path.ofText path).text with
  | .memory => return .memory
  | .file path access => return ofFile isFile path access

end Location

end TaskShell
