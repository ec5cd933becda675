import TaskShell.Instant

/-!
# Supply of record ids

Candidate ids come from a queue and then from an endless series. A new record gets the first
candidate that is free. The search for it has no end if no candidate is free.

## Main definitions

* `IdSupply` — the candidates still to come.
* `IdSupply.ofQueue`, `IdSupply.scattered` — numbered candidates, scattered ones.
* `IdSupply.candidate`, `IdSupply.drop` — the candidates in order, and the supply after some of
  them.
* `IdSupply.seek?`, `IdSupply.draw?` — the first free candidate, and the supply after it.

## Main results

* `IdSupply.draw?_eq_some_iff` — what is drawn is the first free candidate, and those up to it are
  used up.
* `IdSupply.draw?_isSome_iff` — the search ends just if a candidate is free.
-/

set_option autoImplicit false

namespace TaskShell

/-- The candidates still to come: the queued ones, then those of the series from `next` on. -/
structure IdSupply where
  queued : List String
  series : Nat → String
  next : Nat

namespace IdSupply

/-- `ID0001`, `ID0002` and so on. -/
def numbered (n : Nat) : String :=
  String.ofList ('I' :: 'D' :: Instant.padded 4 n)

/-- Queued candidates, then numbered ones. -/
def ofQueue (queued : List String) : IdSupply :=
  ⟨queued, numbered, 1⟩

/-- A digit to the base 36. -/
def digit (n : Nat) : Char :=
  Char.ofNat (if n < 10 then '0'.toNat + n else 'A'.toNat + (n - 10))

/-- The last six digits of a number to the base 36. -/
def sixDigits (n : Nat) : String :=
  String.ofList ((List.range 6).map fun place => digit (n / Nat.pow 36 place % 36))

/-- Candidates of six digits, scattered by a seed. -/
def scattered (seed : Nat) : IdSupply :=
  ⟨[], fun n => sixDigits (randNat (mkStdGen (seed + n)) 0 2176782335).1, 0⟩

/-! ## Candidates in order -/

/-- The candidates still to come, counted from the next one on. -/
def candidate (supply : IdSupply) (n : Nat) : String :=
  match supply.queued[n]? with
  | some id => id
  | none => supply.series (supply.next + (n - supply.queued.length))

/-- The supply after its first candidates. -/
def drop (supply : IdSupply) (n : Nat) : IdSupply :=
  { supply with
    queued := supply.queued.drop n
    next := supply.next + (n - supply.queued.length) }

/-- The first free candidate and the supply after it. The search goes on until a candidate is
free. -/
def seek? (supply : IdSupply) (taken : String → Bool) : Option (String × IdSupply) :=
  if taken (supply.candidate 0) then supply.drop 1 |>.seek? taken
  else some (supply.candidate 0, supply.drop 1)
partial_fixpoint

/-- The same search, its first steps counted: what is found within them is found by computation
alone. -/
def draw? (supply : IdSupply) (taken : String → Bool) : Nat → Option (String × IdSupply)
  | 0 => supply.seek? taken
  | fuel + 1 =>
    if taken (supply.candidate 0) then (supply.drop 1).draw? taken fuel
    else some (supply.candidate 0, supply.drop 1)

/-- A candidate is the first that is free: those before it are taken. -/
structure FirstFree (supply : IdSupply) (taken : String → Bool) (n : Nat) : Prop where
  before : ∀ m < n, taken (supply.candidate m) = true
  free : taken (supply.candidate n) = false

variable {supply rest : IdSupply} {taken : String → Bool} {id : String}

/-- The candidates after the first ones follow them. -/
theorem candidate_drop (supply : IdSupply) (n m : Nat) :
    (supply.drop n).candidate m = supply.candidate (n + m) := by
  have hplace : supply.next + (n - supply.queued.length) + (m - (supply.queued.length - n)) =
      supply.next + (n + m - supply.queued.length) := by
    omega
  simp only [candidate, drop, List.getElem?_drop, List.length_drop, hplace]

/-- No candidates may be passed over. -/
@[simp] theorem drop_zero (supply : IdSupply) : supply.drop 0 = supply := by
  simp [drop]

/-- Candidates may be passed over in two parts. -/
theorem drop_drop (supply : IdSupply) (n m : Nat) :
    (supply.drop n).drop m = supply.drop (n + m) := by
  have hplace : supply.next + (n - supply.queued.length) + (m - (supply.queued.length - n)) =
      supply.next + (n + m - supply.queued.length) := by
    omega
  simp only [drop, List.drop_drop, List.length_drop, hplace]

/-- While the next candidate is taken, the first that is free comes later. -/
theorem firstFree_succ_iff (h : taken (supply.candidate 0) = true) (n : Nat) :
    supply.FirstFree taken (n + 1) ↔ (supply.drop 1).FirstFree taken n := by
  constructor
  · intro hfirst
    refine ⟨fun m hm => ?_, ?_⟩
    · rw [candidate_drop, Nat.add_comm]
      exact hfirst.before (m + 1) (by omega)
    · rw [candidate_drop, Nat.add_comm]
      exact hfirst.free
  · intro hfirst
    refine ⟨fun m hm => ?_, ?_⟩
    · cases m with
      | zero => exact h
      | succ m =>
        have hbefore := hfirst.before m (by omega)
        rwa [candidate_drop, Nat.add_comm] at hbefore
    · have hfree := hfirst.free
      rwa [candidate_drop, Nat.add_comm] at hfree

/-- There is only one first candidate that is free. -/
theorem FirstFree.unique {n m : Nat} (h : supply.FirstFree taken n)
    (h' : supply.FirstFree taken m) : n = m := by
  rcases Nat.lt_trichotomy n m with hlt | heq | hlt
  · exact absurd (h'.before n hlt) (by simp [h.free])
  · exact heq
  · exact absurd (h.before m hlt) (by simp [h'.free])

/-! ## What is drawn -/

/-- Counting steps does not change the search. -/
theorem draw?_eq_seek? (supply : IdSupply) (taken : String → Bool) (fuel : Nat) :
    supply.draw? taken fuel = supply.seek? taken := by
  induction fuel generalizing supply with
  | zero => rfl
  | succ fuel ih => rw [draw?, seek?, ih]

/-- The first free candidate is found. -/
theorem seek?_of_firstFree {n : Nat} (h : supply.FirstFree taken n) :
    supply.seek? taken = some (supply.candidate n, supply.drop (n + 1)) := by
  induction n generalizing supply with
  | zero => rw [seek?, if_neg (by simp [h.free])]
  | succ n ih =>
    have htaken := h.before 0 (Nat.succ_pos n)
    have hrest := ih ((firstFree_succ_iff htaken n).1 h)
    rw [seek?, if_pos htaken, hrest, candidate_drop, drop_drop, Nat.add_comm 1 n,
      Nat.add_comm 1 (n + 1)]

/-- Where something is found there is a first free candidate. -/
theorem firstFree_of_seek? (h : supply.seek? taken = some (id, rest)) :
    ∃ n, supply.FirstFree taken n := by
  refine seek?.partial_correctness taken (fun supply _ => ∃ n, supply.FirstFree taken n)
    ?_ supply (id, rest) h
  intro search ih supply found hfound
  by_cases htaken : taken (supply.candidate 0) = true
  · rw [if_pos htaken] at hfound
    obtain ⟨n, hfirst⟩ := ih (supply.drop 1) found hfound
    exact ⟨n + 1, (firstFree_succ_iff htaken n).2 hfirst⟩
  · exact ⟨0, fun m hm => absurd hm (Nat.not_lt_zero m), by simpa using htaken⟩

/-- What is drawn is the first free candidate, and those up to it are used up. -/
theorem draw?_eq_some_iff {fuel : Nat} : supply.draw? taken fuel = some (id, rest) ↔
    ∃ n, supply.FirstFree taken n ∧ id = supply.candidate n ∧ rest = supply.drop (n + 1) := by
  rw [draw?_eq_seek?]
  constructor
  · intro h
    obtain ⟨n, hfirst⟩ := firstFree_of_seek? h
    rw [seek?_of_firstFree hfirst] at h
    obtain ⟨rfl, rfl⟩ := Prod.mk.inj (Option.some.inj h)
    exact ⟨n, hfirst, rfl, rfl⟩
  · rintro ⟨n, hfirst, rfl, rfl⟩
    exact seek?_of_firstFree hfirst

/-- Where a candidate is free, there is a first one. -/
theorem exists_firstFree {n : Nat} (h : taken (supply.candidate n) = false) :
    ∃ m, supply.FirstFree taken m := by
  induction n generalizing supply with
  | zero => exact ⟨0, fun m hm => absurd hm (Nat.not_lt_zero m), h⟩
  | succ n ih =>
    by_cases htaken : taken (supply.candidate 0) = true
    · obtain ⟨m, hfirst⟩ := @ih (supply.drop 1) (by rw [candidate_drop, Nat.add_comm]; exact h)
      exact ⟨m + 1, (firstFree_succ_iff htaken m).2 hfirst⟩
    · exact ⟨0, fun m hm => absurd hm (Nat.not_lt_zero m), by simpa using htaken⟩

/-- The search for a free candidate ends just if there is one. -/
theorem draw?_isSome_iff (fuel : Nat) :
    (supply.draw? taken fuel).isSome ↔ ∃ n, taken (supply.candidate n) = false := by
  rw [draw?_eq_seek?, Option.isSome_iff_exists]
  constructor
  · rintro ⟨⟨id, rest⟩, h⟩
    obtain ⟨n, hfirst⟩ := firstFree_of_seek? h
    exact ⟨n, hfirst.free⟩
  · rintro ⟨n, hfree⟩
    obtain ⟨m, hfirst⟩ := exists_firstFree hfree
    exact ⟨_, seek?_of_firstFree hfirst⟩

end IdSupply

end TaskShell
