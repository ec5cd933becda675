import TaskShell.Proofs.Json.Texts
import TaskShell.Proofs.Number.Spelling

/-!
# Values read back

What is written of a value is read, whatever follows it that cannot belong to a number. The keys of
maps become texts on the way: a value is read again as one whose maps have texts for keys, of which a
repeated one keeps its first place and takes its last value.

## Main definitions

* `Json.Stops` — what may follow a value.
* `Value.reread` — what is read of a value that has been written.

## Main results

* `Json.takeValue?_write` — a value that is written is read off the text it starts.
* `Json.parse?_render` — the text of a value is read as the value, read again.
-/

set_option autoImplicit false

namespace TaskShell.Json

open Number (isNumeric)

variable {cs rest : List Char} {fuel : Nat}

/-! ## Numbers -/

/-- What may follow a value that is written: no character of a number. -/
def Stops (rest : List Char) : Prop :=
  ∀ c ∈ rest.head?, isNumeric c = false

/-- What is numeric is taken up to what follows. -/
lemma takeWhile_isNumeric (hcs : ∀ c ∈ cs, isNumeric c = true) (hrest : Stops rest) :
    (cs ++ rest).takeWhile isNumeric = cs ∧ (cs ++ rest).dropWhile isNumeric = rest := by
  rw [List.takeWhile_append_of_pos hcs, List.dropWhile_append_of_pos hcs]
  cases rest with
  | nil => simp
  | cons c rest =>
    have hc : isNumeric c = false := hrest c rfl
    simp [hc]

/-- A number starts with a digit, perhaps after a sign. -/
def StartsAsNumber (cs : List Char) : Prop :=
  ∃ (negative : Bool) (c : Char) (ds : List Char),
    cs = (if negative then ['-'] else []) ++ c :: ds ∧ c.isDigit = true

/-- Its first character. -/
lemma StartsAsNumber.exists_cons (h : StartsAsNumber cs) :
    ∃ c ds, cs = c :: ds ∧ (c = '-' ∨ c.isDigit = true) := by
  obtain ⟨negative, c, ds, rfl, hc⟩ := h
  cases negative with
  | true => exact ⟨'-', c :: ds, rfl, .inl rfl⟩
  | false => exact ⟨c, ds, rfl, .inr hc⟩

/-- A number has no name. -/
lemma takeNamed?_eq_none (h : StartsAsNumber cs) (rest : List Char) :
    takeNamed? (cs ++ rest) = none := by
  obtain ⟨negative, c, ds, rfl, hc⟩ := h
  have hne : ∀ d : Char, d.isDigit = false → (d == c) = false := by
    intro d hd
    rw [beq_eq_false_iff_ne]
    rintro rfl
    rw [hc] at hd
    exact nomatch hd
  cases negative <;>
    simp [takeNamed?, namedNumbers, List.find?, List.isPrefixOf, hne 'N' rfl, hne 'I' rfl, hne '-' rfl]

/-- A number that is written is read. -/
lemma takeValue?_number {v : Value} (hstart : StartsAsNumber cs)
    (hcs : ∀ c ∈ cs, isNumeric c = true) (hv : number? cs = some v) (hrest : Stops rest) :
    takeValue? (fuel + 1) (cs ++ rest) = some (v, rest) := by
  have hnamed := takeNamed?_eq_none hstart rest
  obtain ⟨htake, hdrop⟩ := takeWhile_isNumeric hcs hrest
  obtain ⟨c, ds, hcs', hc⟩ := hstart.exists_cons
  have hcons : cs ++ rest = c :: (ds ++ rest) := by rw [hcs', List.cons_append]
  have hne : ∀ d : Char, d ≠ '-' → d.isDigit = false → c ≠ d := by
    rintro d hminus hd rfl
    rcases hc with hc | hc
    · exact hminus hc
    · rw [hc] at hd
      exact nomatch hd
  have hspace : skipSpace (cs ++ rest) = cs ++ rest := by
    rw [hcons, skipSpace, List.dropWhile_cons_of_neg]
    simp [hne ' ' (by decide) rfl, hne '\n' (by decide) rfl, hne '\r' (by decide) rfl,
      hne '\t' (by decide) rfl]
  unfold takeValue?
  rw [hspace]
  split
  case h_7 =>
    rw [hnamed]
    dsimp only
    rw [htake, hdrop, hv]
    rfl
  all_goals
    rename_i heq
    exact absurd (List.cons.inj (hcons.symm.trans heq)).1 (hne _ (by decide) rfl)

/-- A whole number that is written starts as one. -/
lemma startsAsNumber_toString (n : Int) : StartsAsNumber (toString n).toList := by
  obtain ⟨d, ds, hcons⟩ := List.exists_cons_of_ne_nil (Nat.toDigits_ne_nil (n := n.natAbs) (b := 10))
  refine ⟨_, d, ds, by rw [Number.toList_toString, hcons], ?_⟩
  exact Number.isDigit_toDigits n.natAbs d (by rw [hcons]; exact List.mem_cons_self)

/-- A whole number is kept from being written by its length. -/
lemma intFault?_eq_none_iff {n : Int} :
    intFault? n = none ↔ n.natAbs < Number.tenTo Number.digitLimit := by
  unfold intFault?
  split
  · next h => simpa using h
  · next h => simpa using Nat.le_of_not_lt h

/-- A whole number that is written is read, unless it is too long. -/
lemma takeValue?_int {n : Int} (hn : n.natAbs < Number.tenTo Number.digitLimit) (hrest : Stops rest) :
    takeValue? (fuel + 1) ((toString n).toList ++ rest) = some (.int n, rest) := by
  have hchars : ∀ c ∈ (toString n).toList, c = '-' ∨ c.isDigit = true := by
    intro c hc
    rw [Number.toList_toString] at hc
    rcases List.mem_append.1 hc with hsign | hc
    · split at hsign
      · exact .inl (List.mem_singleton.1 hsign)
      · exact absurd hsign List.not_mem_nil
    · exact .inr (Number.isDigit_toDigits n.natAbs c hc)
  refine takeValue?_number (startsAsNumber_toString n) (fun c hc => ?_) ?_ hrest
  · exact Number.isNumeric_iff.2 ((hchars c hc).symm.imp_right .inl)
  · have hwhole : ((toString n).toList.any fun c => c == '.' || c == 'e' || c == 'E') = false := by
      rw [List.any_eq_false]
      intro c hc
      rcases hchars c hc with rfl | hdigit
      · decide
      · exact Number.forall_isDigit (P := fun c => ¬ (c == '.' || c == 'e' || c == 'E') = true)
          (by decide) hdigit
    rw [number?, hwhole, if_neg (by decide), String.ofList_toList, Number.readInt?_toString hn]
    rfl

/-- The digits of a finite number start as a number, and so does it with its sign. -/
lemma startsAsNumber_text (negative : Bool) {m : Nat} {e : Int} (fits : Binary64.Fits m e) :
    StartsAsNumber (Binary64.finite negative m e fits).text.toList := by
  obtain ⟨coefficient, exponent, hspells, -⟩ := Binary64.exists_spells_shortest fits
  obtain ⟨⟨c, cs, hcons, hc⟩, -⟩ := hspells.shape
  exact ⟨negative, c, cs, by rw [Binary64.toList_text, hcons], hc⟩

/-- A floating-point number that is written is read. -/
lemma takeValue?_float (x : Binary64) (hrest : Stops rest) :
    takeValue? (fuel + 1) (writeFloat x ++ rest) = some (.float x, rest) := by
  cases x with
  | nan => rfl
  | infinite negative => cases negative <;> rfl
  | finite negative m e fits =>
    have hwrite : writeFloat (.finite negative m e fits) =
        (Binary64.finite negative m e fits).text.toList := rfl
    rw [hwrite]
    obtain ⟨coefficient, exponent, hspells, -⟩ := Binary64.exists_spells_shortest fits
    obtain ⟨-, hnumeric, mark, hmark, hpoint⟩ := hspells.shape
    have htext := Binary64.toList_text negative fits
    refine takeValue?_number (startsAsNumber_text negative fits) ?_ ?_ hrest
    · rw [htext, List.forall_mem_append]
      refine ⟨?_, hnumeric⟩
      cases negative with
      | false => exact List.forall_mem_nil _
      | true => exact List.forall_mem_singleton.2 rfl
    · have hany : ((Binary64.finite negative m e fits).text.toList.any
          fun c => c == '.' || c == 'e' || c == 'E') = true := by
        rw [List.any_eq_true]
        refine ⟨mark, ?_, by rcases hpoint with rfl | rfl <;> rfl⟩
        rw [htext]
        exact List.mem_append_right _ hmark
      rw [number?, hany, if_pos rfl, String.ofList_toList, Binary64.readFloat?_text]
      rfl

end TaskShell.Json

/-! ## Values that are read again -/

namespace TaskShell.Value

/-- The text that stands for a key. -/
def keyText : Value → String
  | .text key => key
  | key => String.ofList (Json.write key)

mutual

/-- What is read of a value that has been written: the keys of its maps have become texts, of which a
repeated one keeps its first place and takes its last value. -/
def reread : Value → Value
  | .list items => .list (rereadItems items)
  | .map entries => .ofFields (Entries.ofPairs (rereadPairs entries))
  | v => v

/-- The items of a list that are read again. -/
def rereadItems : List Value → List Value
  | [] => []
  | item :: items => reread item :: rereadItems items

/-- The entries of a map that are read again. -/
def rereadPairs : List (Value × Value) → List (String × Value)
  | [] => []
  | (key, value) :: pairs => (keyText key, reread value) :: rereadPairs pairs

end

end TaskShell.Value

namespace TaskShell.Json

variable {cs rest : List Char} {fuel levels : Nat}

/-- A pair is written as its key, a colon and its value. -/
lemma writePairs_cons (key value : Value) (pairs : List (Value × Value)) :
    writePairs ((key, value) :: pairs) =
      (writeText key.keyText ++ ':' :: write value) :: writePairs pairs := by
  cases key <;> rfl

/-- The first of several pieces with commas between them. -/
lemma intercalate_cons_cons (piece next : List Char) (pieces : List (List Char)) :
    [','].intercalate (piece :: next :: pieces) =
      piece ++ ',' :: [','].intercalate (next :: pieces) := by
  simp [List.intercalate]

/-- The first of several items. -/
lemma intercalate_writeItems (item next : Value) (items : List Value) :
    [','].intercalate (writeItems (item :: next :: items)) =
      write item ++ ',' :: [','].intercalate (writeItems (next :: items)) :=
  intercalate_cons_cons _ _ _

/-- The first of several pairs. -/
lemma intercalate_writePairs (key value : Value) (next : Value × Value)
    (pairs : List (Value × Value)) :
    [','].intercalate (writePairs ((key, value) :: next :: pairs)) =
      writeText key.keyText ++ ':' :: (write value ++ ',' ::
        [','].intercalate (writePairs (next :: pairs))) := by
  obtain ⟨key', value'⟩ := next
  simp only [writePairs_cons, intercalate_cons_cons, List.append_assoc, List.cons_append]

/-- A character that starts a value. -/
def OpensValue (c : Char) : Prop :=
  c ∉ [' ', '\n', '\r', '\t', ',', ':', ']', '\x7d']

/-- A value that is written starts like one. -/
lemma exists_write_eq_cons (v : Value) : ∃ c cs, write v = c :: cs ∧ OpensValue c := by
  have hnumber : ∀ {cs : List Char}, StartsAsNumber cs → ∃ c ds, cs = c :: ds ∧ OpensValue c := by
    intro cs hcs
    obtain ⟨c, ds, hcons, rfl | hc⟩ := hcs.exists_cons
    · exact ⟨'-', ds, hcons, by unfold OpensValue; decide⟩
    · exact ⟨c, ds, hcons, Number.forall_isDigit (P := OpensValue) (by unfold OpensValue; decide) hc⟩
  cases v with
  | null => exact ⟨'n', _, rfl, by unfold OpensValue; decide⟩
  | bool value => cases value <;> exact ⟨_, _, rfl, by unfold OpensValue; decide⟩
  | int n => exact hnumber (startsAsNumber_toString n)
  | float x =>
    cases x with
    | nan => exact ⟨'N', _, rfl, by unfold OpensValue; decide⟩
    | infinite negative => cases negative <;> exact ⟨_, _, rfl, by unfold OpensValue; decide⟩
    | finite negative m e fits => exact hnumber (startsAsNumber_text negative fits)
  | text s => exact ⟨'"', _, rfl, by unfold OpensValue; decide⟩
  | list items => exact ⟨'[', _, rfl, by unfold OpensValue; decide⟩
  | map entries => exact ⟨'\x7b', _, rfl, by unfold OpensValue; decide⟩

/-- No white space comes before a character that is none. -/
lemma skipSpace_cons {c : Char} (h : c ∉ [' ', '\n', '\r', '\t']) (cs : List Char) :
    skipSpace (c :: cs) = c :: cs := by
  rw [skipSpace, List.dropWhile_cons_of_neg]
  simpa [and_assoc] using h

/-- Pieces with commas between them start as the first of them. -/
lemma exists_intercalate_eq (piece : List Char) (pieces : List (List Char)) :
    ∃ more, [','].intercalate (piece :: pieces) = piece ++ more := by
  cases pieces with
  | nil => exact ⟨[], by simp [List.intercalate]⟩
  | cons next pieces => exact ⟨_, intercalate_cons_cons piece next pieces⟩

/-- Items that are written start with a value. -/
lemma exists_items_eq_cons {items : List Value} (h : items ≠ []) (rest : List Char) :
    ∃ c cs, [','].intercalate (writeItems items) ++ rest = c :: cs ∧ OpensValue c := by
  obtain ⟨item, items, rfl⟩ := List.exists_cons_of_ne_nil h
  obtain ⟨c, cs, hwrite, hc⟩ := exists_write_eq_cons item
  obtain ⟨more, hmore⟩ := exists_intercalate_eq (write item) (writeItems items)
  exact ⟨c, cs ++ more ++ rest, by rw [writeItems, hmore, hwrite]; simp, hc⟩

/-- Pairs that are written start with a key. -/
lemma exists_pairs_eq_cons {pairs : List (Value × Value)} (h : pairs ≠ []) (rest : List Char) :
    ∃ cs, [','].intercalate (writePairs pairs) ++ rest = '"' :: cs := by
  obtain ⟨⟨key, value⟩, pairs, rfl⟩ := List.exists_cons_of_ne_nil h
  obtain ⟨more, hmore⟩ :=
    exists_intercalate_eq (writeText key.keyText ++ ':' :: write value) (writePairs pairs)
  exact ⟨_, by rw [writePairs_cons, hmore]; rfl⟩

/-- A comma and the closing brackets are no characters of numbers. -/
lemma stops_cons {c : Char} (h : Number.isNumeric c = false) (cs : List Char) : Stops (c :: cs) := by
  intro d hd
  rwa [← Option.some.inj hd]

/-- No white space comes before what starts a value. -/
lemma OpensValue.skipSpace {c : Char} (h : OpensValue c) (cs : List Char) :
    skipSpace (c :: cs) = c :: cs :=
  skipSpace_cons (fun hc => h (List.mem_append_left _ hc)) cs

/-- A text that is written is read as a value. -/
lemma takeValue?_text (s : String) (rest : List Char) :
    takeValue? (fuel + 1) (write (.text s) ++ rest) = some (.text s, rest) := by
  have hread := takeText?_writeText s rest rfl
  rw [write, takeValue?, show writeText s ++ rest = '"' :: _ from rfl, skipSpace_cons (by decide)]
  simp only [hread, Option.bind_eq_bind, Option.bind_some, String.ofList_toList]
  rfl

/-- A list that is written is read if its items are. -/
lemma takeValue?_list {items : List Value} {rest : List Char}
    (h : items ≠ [] → takeItems? fuel ([','].intercalate (writeItems items) ++ ']' :: rest) =
      some (Value.rereadItems items, rest)) :
    takeValue? (fuel + 1) (write (.list items) ++ rest) =
      some ((Value.list items).reread, rest) := by
  have hinner : write (.list items) ++ rest =
      '[' :: ([','].intercalate (writeItems items) ++ ']' :: rest) := by
    simp [write]
  rw [hinner, takeValue?, skipSpace_cons (by decide)]
  by_cases hne : items = []
  · subst hne
    rfl
  · obtain ⟨c, cs, hcons, hc⟩ := exists_items_eq_cons hne (']' :: rest)
    have hread := h hne
    rw [hcons] at hread ⊢
    simp only [hc.skipSpace]
    split
    · next heq =>
      obtain rfl := (List.cons.inj heq).1
      exact absurd hc (by unfold OpensValue; decide)
    · rw [hread]
      rfl

/-- A map that is written is read if its pairs are. -/
lemma takeValue?_map {entries : List (Value × Value)} {rest : List Char}
    (h : entries ≠ [] → takePairs? fuel ([','].intercalate (writePairs entries) ++ '\x7d' :: rest) =
      some (Value.rereadPairs entries, rest)) :
    takeValue? (fuel + 1) (write (.map entries) ++ rest) =
      some ((Value.map entries).reread, rest) := by
  have hinner : write (.map entries) ++ rest =
      '\x7b' :: ([','].intercalate (writePairs entries) ++ '\x7d' :: rest) := by
    simp [write]
  rw [hinner, takeValue?, skipSpace_cons (by decide)]
  by_cases hne : entries = []
  · subst hne
    rfl
  · obtain ⟨cs, hcons⟩ := exists_pairs_eq_cons hne ('\x7d' :: rest)
    have hread := h hne
    rw [hcons] at hread ⊢
    simp only [skipSpace_cons (c := '"') (by decide)]
    split
    · next heq => exact absurd (List.cons.inj heq).1 (by decide)
    · rw [hread]
      rfl

mutual

/-- A value that is written is read, whatever follows it, unless something keeps it from being
written. -/
theorem takeValue?_write (v : Value) {levels fuel : Nat} {rest : List Char}
    (hfault : fault? levels v = none) (hfuel : (write v).length < fuel) (hrest : Stops rest) :
    takeValue? fuel (write v ++ rest) = some (v.reread, rest) := by
  obtain ⟨fuel, rfl⟩ := Nat.exists_eq_succ_of_ne_zero (Nat.ne_of_gt (Nat.zero_lt_of_lt hfuel))
  cases v with
  | null => rfl
  | bool value => cases value <;> rfl
  | int n => exact takeValue?_int (intFault?_eq_none_iff.1 hfault) hrest
  | float x => exact takeValue?_float x hrest
  | text s => exact takeValue?_text s rest
  | list items =>
    cases levels with
    | zero => exact nomatch hfault
    | succ levels =>
      have hlength : (write (.list items)).length =
          ([','].intercalate (writeItems items)).length + 2 := by
        simp [write]
      exact takeValue?_list fun hne => takeItems?_write items hne hfault (by omega)
  | map entries =>
    cases levels with
    | zero => exact nomatch hfault
    | succ levels =>
      have hlength : (write (.map entries)).length =
          ([','].intercalate (writePairs entries)).length + 2 := by
        simp [write]
      exact takeValue?_map fun hne => takePairs?_write entries hne hfault (by omega)

theorem takeItems?_write (items : List Value) {levels fuel : Nat} {rest : List Char}
    (hne : items ≠ []) (hfault : itemsFault? levels items = none)
    (hfuel : ([','].intercalate (writeItems items)).length + 1 < fuel) :
    takeItems? fuel ([','].intercalate (writeItems items) ++ ']' :: rest) =
      some (Value.rereadItems items, rest) := by
  obtain ⟨fuel, rfl⟩ := Nat.exists_eq_succ_of_ne_zero (Nat.ne_of_gt (Nat.zero_lt_of_lt hfuel))
  cases items with
  | nil => exact absurd rfl hne
  | cons item items =>
    obtain ⟨hitem, hitems⟩ := Option.or_eq_none_iff.1 hfault
    cases items with
    | nil =>
      have hone : [','].intercalate (writeItems [item]) = write item := by
        simp [writeItems, List.intercalate]
      rw [hone] at hfuel ⊢
      rw [takeItems?, takeValue?_write item hitem (by omega) (stops_cons rfl rest)]
      rfl
    | cons next items =>
      have hmore : [','].intercalate (writeItems (item :: next :: items)) ++ ']' :: rest =
          write item ++ ',' :: ([','].intercalate (writeItems (next :: items)) ++ ']' :: rest) := by
        simp only [intercalate_writeItems, List.append_assoc, List.cons_append]
      have hlength : ([','].intercalate (writeItems (item :: next :: items))).length =
          (write item).length + ([','].intercalate (writeItems (next :: items))).length + 1 := by
        simp only [intercalate_writeItems, List.length_append, List.length_cons]
        omega
      have hread : takeItems? fuel ([','].intercalate (writeItems (next :: items)) ++ ']' :: rest) =
          some (Value.rereadItems (next :: items), rest) :=
        takeItems?_write (next :: items) (by simp) hitems (by omega)
      rw [hmore, takeItems?, takeValue?_write item hitem (by omega) (stops_cons rfl _)]
      simp only [Option.bind_eq_bind, Option.bind_some, skipSpace_cons (c := ',') (by decide), hread]
      rfl

theorem takePairs?_write (pairs : List (Value × Value)) {levels fuel : Nat} {rest : List Char}
    (hne : pairs ≠ []) (hfault : pairsFault? levels pairs = none)
    (hfuel : ([','].intercalate (writePairs pairs)).length + 1 < fuel) :
    takePairs? fuel ([','].intercalate (writePairs pairs) ++ '\x7d' :: rest) =
      some (Value.rereadPairs pairs, rest) := by
  obtain ⟨fuel, rfl⟩ := Nat.exists_eq_succ_of_ne_zero (Nat.ne_of_gt (Nat.zero_lt_of_lt hfuel))
  cases pairs with
  | nil => exact absurd rfl hne
  | cons pair pairs =>
    obtain ⟨key, value⟩ := pair
    obtain ⟨hvalue, hpairs⟩ := Option.or_eq_none_iff.1 (Option.or_eq_none_iff.1 hfault).2
    cases pairs with
    | nil =>
      have hone : [','].intercalate (writePairs [(key, value)]) ++ '\x7d' :: rest =
          writeText key.keyText ++ ':' :: (write value ++ '\x7d' :: rest) := by
        simp [writePairs_cons, writePairs, List.intercalate]
      have hlength : (write value).length <
          ([','].intercalate (writePairs [(key, value)])).length := by
        simp only [writePairs_cons, writePairs, List.intercalate, List.intersperse_singleton,
          List.flatten_cons, List.flatten_nil, List.length_append, List.length_cons, List.length_nil]
        omega
      have hkey := takeText?_writeText key.keyText (':' :: (write value ++ '\x7d' :: rest)) rfl
      have hread : takeValue? fuel (write value ++ '\x7d' :: rest) =
          some (value.reread, '\x7d' :: rest) :=
        takeValue?_write value hvalue (by omega) (stops_cons rfl rest)
      rw [hone, takePairs?, show writeText key.keyText ++ _ = '"' :: _ from rfl,
        skipSpace_cons (by decide)]
      simp only [hkey, Option.bind_eq_bind, Option.bind_some, skipSpace_cons (c := ':') (by decide),
        hread, skipSpace_cons (c := '\x7d') (by decide), String.ofList_toList]
      rfl
    | cons next pairs =>
      have hmore : [','].intercalate (writePairs ((key, value) :: next :: pairs)) ++ '\x7d' :: rest =
          writeText key.keyText ++ ':' :: (write value ++ ',' ::
            ([','].intercalate (writePairs (next :: pairs)) ++ '\x7d' :: rest)) := by
        simp only [intercalate_writePairs, List.append_assoc, List.cons_append]
      have hlength : (write value).length + ([','].intercalate (writePairs (next :: pairs))).length <
          ([','].intercalate (writePairs ((key, value) :: next :: pairs))).length := by
        simp only [intercalate_writePairs, List.length_append, List.length_cons]
        omega
      have hkey := takeText?_writeText key.keyText (':' :: (write value ++ ',' ::
        ([','].intercalate (writePairs (next :: pairs)) ++ '\x7d' :: rest))) rfl
      have hread : ∀ after, takeValue? fuel (write value ++ ',' :: after) =
          some (value.reread, ',' :: after) :=
        fun after => takeValue?_write value hvalue (by omega) (stops_cons rfl after)
      have hothers : takePairs? fuel
          ([','].intercalate (writePairs (next :: pairs)) ++ '\x7d' :: rest) =
            some (Value.rereadPairs (next :: pairs), rest) :=
        takePairs?_write (next :: pairs) (by simp) hpairs (by omega)
      rw [hmore, takePairs?, show writeText key.keyText ++ _ = '"' :: _ from rfl,
        skipSpace_cons (by decide)]
      simp only [hkey, Option.bind_eq_bind, Option.bind_some, skipSpace_cons (c := ':') (by decide),
        hread, skipSpace_cons (c := ',') (by decide), hothers, String.ofList_toList]
      rfl

end

/-- **A value that can be written reads back**, with texts for the keys of its maps. -/
theorem parse?_render {v : Value} {levels : Nat} (h : fault? levels v = none) :
    parse? (render v) = some v.reread := by
  have hread : takeValue? ((write v).length + 1) (write v ++ []) = some (v.reread, []) :=
    takeValue?_write v h (Nat.lt_succ_self _) (by simp [Stops])
  rw [List.append_nil] at hread
  rw [parse?, render, String.toList_ofList, hread]
  rfl

end TaskShell.Json
