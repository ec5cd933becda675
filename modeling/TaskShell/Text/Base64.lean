/-!
# Bytes written in letters

Four characters stand for three bytes. Characters outside the alphabet are passed over, and the mark
of padding ends the text where it completes a group.

## Main definitions

* `Base64.decode?` — the bytes of a text.
-/

set_option autoImplicit false

namespace TaskShell.Base64

/-- The value of a character of the alphabet. -/
def value? (c : Char) : Option Nat :=
  if 'A' ≤ c ∧ c ≤ 'Z' then some (c.toNat - 65)
  else if 'a' ≤ c ∧ c ≤ 'z' then some (c.toNat - 71)
  else if '0' ≤ c ∧ c ≤ '9' then some (c.toNat + 4)
  else if c = '+' then some 62
  else if c = '/' then some 63
  else none

/-- The bytes that begin in a group, of which `place` characters have been read and `left` bits
value is left over; `pads` marks of padding came last. The group has to be complete at the end. -/
def decodeGroup (place left pads : Nat) : List Char → Option (List UInt8)
  | [] => if place = 0 then some [] else none
  | c :: cs =>
    if c = '=' then
      if 2 ≤ place then
        if 4 ≤ place + pads + 1 then some [] else decodeGroup place left (pads + 1) cs
      else decodeGroup place left pads cs
    else
      match value? c with
      | none => decodeGroup place left pads cs
      | some v =>
        match place with
        | 0 => decodeGroup 1 v 0 cs
        | 1 => (decodeGroup 2 (v % 16) 0 cs).map (UInt8.ofNat (left * 4 + v / 16) :: ·)
        | 2 => (decodeGroup 3 (v % 4) 0 cs).map (UInt8.ofNat (left * 16 + v / 4) :: ·)
        | _ => (decodeGroup 0 0 0 cs).map (UInt8.ofNat (left * 64 + v) :: ·)

/-- The bytes of a text in the basic character set. -/
def decode? (cs : List Char) : Option (List UInt8) :=
  if cs.all fun c => c.toNat < 128 then decodeGroup 0 0 0 cs else none

end TaskShell.Base64
