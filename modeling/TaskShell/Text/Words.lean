import TaskShell.Text.Class

/-!
# Trimming, cutting and joining text

## Main definitions

* `Chars.trim`, `Text.trim` — a text without the blanks around it.
* `Chars.firstWord` — the first word of a text.
* `Chars.cut`, `Text.cut` — the pieces between the occurrences of a character.
* `Text.join` — texts with a separator between them.
-/

set_option autoImplicit false

namespace TaskShell.Chars

open TaskShell.Text

/-- A text without the characters of a class at its end. -/
def dropEnd (p : Char → Bool) (cs : List Char) : List Char :=
  (cs.reverse.dropWhile p).reverse

/-- A text without the blanks around it. -/
def trim (cs : List Char) : List Char :=
  dropEnd isBlank (cs.dropWhile isBlank)

/-- The characters up to the first blank, after leading blanks. -/
def firstWord (cs : List Char) : List Char :=
  (cs.dropWhile isBlank).takeWhile fun c => !isBlank c

/-- The pieces between the occurrences of `mark`: one more than there are marks. -/
def cut (mark : Char) : List Char → List (List Char)
  | [] => [[]]
  | c :: cs =>
    if c = mark then [] :: cut mark cs
    else
      match cut mark cs with
      | [] => [[c]]
      | piece :: pieces => (c :: piece) :: pieces

end TaskShell.Chars

namespace TaskShell.Text

/-- A text without the blanks around it. -/
def trim (s : String) : String :=
  String.ofList (Chars.trim s.toList)

/-- Whether a text holds nothing but blanks. -/
def isBlankLine (s : String) : Bool :=
  s.toList.all isBlank

/-- The pieces between the occurrences of `mark`. -/
def cut (mark : Char) (s : String) : List String :=
  (Chars.cut mark s.toList).map String.ofList

/-- Texts with `separator` between them. -/
def join (separator : String) : List String → String
  | [] => ""
  | [s] => s
  | s :: rest => s ++ separator ++ join separator rest

/-- Whether `needle` stands somewhere in `haystack`. -/
def occursIn (needle haystack : List Char) : Bool :=
  needle.isPrefixOf haystack ||
    match haystack with
    | [] => false
    | _ :: rest => occursIn needle rest

end TaskShell.Text
