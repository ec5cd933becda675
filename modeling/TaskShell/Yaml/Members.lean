import TaskShell.Value.Basic

/-!
# The order of members

The members of a set of numbers are kept in a table, and the set is shown place by place. Each
number has a key, equal numbers the same one; it asks for a place of the table, and where that is
taken, for others in a fixed round.

## Main definitions

* `Yaml.memberKey?` — the key of a number.
* `Yaml.memberPlace` — the place that a key gets in a table.
* `Yaml.inPlaces` — members in the order of their places.
-/

set_option autoImplicit false

namespace TaskShell.Yaml

open Number (twoTo)

/-- Magnitudes are taken modulo this prime, and the power of two before it counts as one. -/
def keyModulus : Nat :=
  twoTo 61 - 1

/-- The magnitude that infinity counts as. -/
def infiniteKey : Nat := 314159

/-- A reduced magnitude with a sign. No key is minus one. -/
def signedKey (negative : Bool) (magnitude : Nat) : Int :=
  if !negative then magnitude else if magnitude = 1 then -2 else -magnitude

/-- The key of a number or a truth value. Not-a-number has none. -/
def memberKey? : Value → Option Int
  | .bool value => some (if value then 1 else 0)
  | .int n => some (signedKey (n < 0) (n.natAbs % keyModulus))
  | .float (.finite negative significand exponent _) =>
    some (signedKey negative (significand * twoTo (exponent.emod 61).toNat % keyModulus))
  | .float (.infinite negative) => some (signedKey negative infiniteKey)
  | _ => none

/-- The places of a table for some members: eight for up to four of them, else the least power of
two that is more than twice their number. -/
def tableSize (members : Nat) : Nat :=
  if members < 5 then 8 else twoTo ((2 * members).log2 + 1)

/-- The places tried in a row: ten, unless they run past the end of the table. -/
def placesFrom (size start : Nat) : List Nat :=
  if start + 9 < size then List.range' start 10 else [start]

/-- The first free place of a round. What is left of the key leads from one row of places to the
next. -/
def freePlace (size : Nat) (taken : List Nat) : (fuel left start : Nat) → Nat
  | 0, _, start => start
  | fuel + 1, left, start =>
    match (placesFrom size start).find? (!taken.contains ·) with
    | some place => place
    | none => freePlace size taken fuel (left / 32) ((5 * start + 1 + left / 32) % size)

/-- The place that a key gets in a table in which some places are taken. -/
def memberPlace (size : Nat) (taken : List Nat) (key : Int) : Nat :=
  let key := (key.emod (twoTo 64)).toNat
  freePlace size taken (size + 14) key (key % size)

/-- The places that keys get one after the other, the last one first. -/
def memberPlaces (keys : List Int) : List Nat :=
  keys.foldl (fun taken key => memberPlace (tableSize keys.length) taken key :: taken) []

/-- Members in the order of their places; in the order given, if one of them has no key. -/
def inPlaces {α : Type} (key? : α → Option Int) (members : List α) : List α :=
  match members.mapM key? with
  | none => members
  | some keys =>
    let placed := (memberPlaces keys).reverse.zip members
    (placed.mergeSort fun a b => a.1 ≤ b.1).map Prod.snd

end TaskShell.Yaml
