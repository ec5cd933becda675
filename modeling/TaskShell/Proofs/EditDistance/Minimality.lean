import Mathlib.Order.MinMax
import Mathlib.Tactic.Lemma
import Mathlib.Tactic.SplitIfs
import TaskShell.EditDistance

/-!
# The edit distance is the least number of edits

An edit inserts, deletes or replaces one character anywhere in a text, and a script leads from one
text to another edit by edit. The last row of the table ends with the length of the shortest script.

The table is filled from the front of the two texts, so a cell belongs to two initial pieces that
grow at their ends. They are kept in reverse here, where growing at the end is `cons`; edits do not
mind the direction.

## Main definitions

* `EditDistance.Edit`, `EditDistance.Script` — one edit, and edits one after the other.
* `EditDistance.cost` — the least number of edits between two texts, by recursion on both.
* `EditDistance.row` — a row of the table, in terms of costs.

## Main results

* `EditDistance.cost_cons_self` — where characters match, nothing beats keeping them.
* `EditDistance.cost_le_length`, `EditDistance.exists_script` — costs are lengths of shortest
  scripts.
* `EditDistance.nextRow_row`, `EditDistance.fromTable_eq_cost` — the table holds costs.
* `EditDistance.distance_eq_cost` — so do the texts that need no table.
* `EditDistance.least_edits` — the distance of two words.
-/

set_option autoImplicit false

namespace TaskShell.EditDistance

variable {c d : Char} {cs ds es : List Char}

/-! ## Edits and scripts -/

/-- One insertion, deletion or substitution of a single character. -/
inductive Edit : List Char → List Char → Prop
  | insert (front back : List Char) (c : Char) : Edit (front ++ back) (front ++ c :: back)
  | delete (front back : List Char) (c : Char) : Edit (front ++ c :: back) (front ++ back)
  | substitute (front back : List Char) (c d : Char) :
      Edit (front ++ c :: back) (front ++ d :: back)

/-- Edits one after the other, from one text to another. -/
inductive Script : List Char → List Char → Type
  | done (cs : List Char) : Script cs cs
  | step {cs ds es : List Char} (edit : Edit cs ds) (rest : Script ds es) : Script cs es

/-- An edit can be undone. -/
lemma Edit.symm (h : Edit cs ds) : Edit ds cs := by
  cases h with
  | insert front back c => exact .delete front back c
  | delete front back c => exact .insert front back c
  | substitute front back c d => exact .substitute front back d c

/-- An edit is one behind a further character as well. -/
lemma Edit.cons (h : Edit cs ds) (c : Char) : Edit (c :: cs) (c :: ds) := by
  cases h with
  | insert front back d => exact .insert (c :: front) back d
  | delete front back d => exact .delete (c :: front) back d
  | substitute front back d e => exact .substitute (c :: front) back d e

/-- An edit is one when both texts are read backwards as well. -/
lemma Edit.reverse (h : Edit cs ds) : Edit cs.reverse ds.reverse := by
  cases h with
  | insert front back c => simpa using Edit.insert back.reverse front.reverse c
  | delete front back c => simpa using Edit.delete back.reverse front.reverse c
  | substitute front back c d => simpa using Edit.substitute back.reverse front.reverse c d

namespace Script

/-- The number of edits. -/
def length {cs ds : List Char} : Script cs ds → Nat
  | .done _ => 0
  | .step _ rest => rest.length + 1

/-- A script followed by another one. -/
def append {cs ds es : List Char} : Script cs ds → Script ds es → Script cs es
  | .done _, others => others
  | .step edit rest, others => .step edit (rest.append others)

/-- A script carried over to changed texts. -/
def map (f : List Char → List Char) (h : ∀ {cs ds}, Edit cs ds → Edit (f cs) (f ds))
    {cs ds : List Char} : Script cs ds → Script (f cs) (f ds)
  | .done cs => .done (f cs)
  | .step edit rest => .step (h edit) (rest.map f h)

/-- A script undone, the last edit first. -/
def undo {cs ds : List Char} : Script cs ds → Script ds cs
  | .done cs => .done cs
  | .step edit rest => rest.undo.append (.step edit.symm (.done _))

/-- Scripts in sequence have their edits together. -/
@[simp] lemma length_append (script : Script cs ds) (others : Script ds es) :
    (script.append others).length = script.length + others.length := by
  induction script with
  | done cs => simp [append, length]
  | step edit rest ih => simp only [append, length, ih]; omega

/-- No edit is lost when texts change alike. -/
@[simp] lemma length_map (f : List Char → List Char)
    (h : ∀ {cs ds}, Edit cs ds → Edit (f cs) (f ds)) (script : Script cs ds) :
    (script.map f h).length = script.length := by
  induction script with
  | done cs => rfl
  | step edit rest ih => simp only [map, length, ih]

/-- Undoing takes as many edits. -/
@[simp] lemma length_undo (script : Script cs ds) : script.undo.length = script.length := by
  induction script with
  | done cs => rfl
  | step edit rest ih => simp only [undo, length_append, ih, length, Nat.zero_add]

/-- A script without edits leads nowhere. -/
lemma eq_of_length_eq_zero (script : Script cs ds) (h : script.length = 0) : cs = ds := by
  cases script with
  | done cs => rfl
  | step edit rest => exact nomatch h

end Script

/-! ## Costs -/

/-- The costs of a text with one more character `c`, from those of the text. -/
def withChar (c : Char) (cost : List Char → Nat) : List Char → Nat
  | [] => cost [] + 1
  | d :: ds =>
    min (cost ds + if c = d then 0 else 1) (min (cost (d :: ds)) (withChar c cost ds) + 1)

/-- The cost of turning one text into another: an empty text costs as many insertions as the other
is long, and for the first characters there is the choice between keeping or replacing, deleting
and inserting. -/
def cost (cs : List Char) : List Char → Nat :=
  cs.foldr withChar List.length

@[simp] lemma cost_nil : cost [] ds = ds.length := rfl

@[simp] lemma cost_cons_nil : cost (c :: cs) [] = cost cs [] + 1 := rfl

lemma cost_cons_cons : cost (c :: cs) (d :: ds) =
    min (cost cs ds + if c = d then 0 else 1) (min (cost cs (d :: ds)) (cost (c :: cs) ds) + 1) :=
  rfl

/-- A further character to be deleted costs one edit at most. -/
lemma cost_cons_le : cost (c :: cs) ds ≤ cost cs ds + 1 := by
  cases ds with
  | nil => exact le_rfl
  | cons d ds => rw [cost_cons_cons]; omega

/-- A further character to be inserted costs one edit at most. -/
lemma cost_le_cons : cost cs (d :: ds) ≤ cost cs ds + 1 := by
  cases cs with
  | nil => exact le_rfl
  | cons c cs => rw [cost_cons_cons]; omega

/-- Without a character that is there the cost is at most one edit higher. -/
lemma le_cost_cons : cost cs ds ≤ cost (c :: cs) ds + 1 := by
  induction ds with
  | nil => rw [cost_cons_nil]; omega
  | cons d ds ih =>
    have hinsert : cost cs (d :: ds) ≤ cost cs ds + 1 := cost_le_cons
    rw [cost_cons_cons]
    omega

/-- Without a character that is asked for the cost is at most one edit higher. -/
lemma le_cost_cons_right : cost cs ds ≤ cost cs (d :: ds) + 1 := by
  induction cs with
  | nil => simp only [cost_nil, List.length_cons]; omega
  | cons c cs ih =>
    have hdelete : cost (c :: cs) ds ≤ cost cs ds + 1 := cost_cons_le
    rw [cost_cons_cons]
    omega

/-- Where the first characters match, nothing beats keeping them. -/
lemma cost_cons_self : cost (c :: cs) (c :: ds) = cost cs ds := by
  have hdelete : cost cs ds ≤ cost cs (c :: ds) + 1 := le_cost_cons_right
  have hinsert : cost cs ds ≤ cost (c :: cs) ds + 1 := le_cost_cons
  rw [cost_cons_cons, if_pos rfl]
  omega

/-- A text is turned into itself at no cost. -/
lemma cost_self : cost cs cs = 0 := by
  induction cs with
  | nil => rfl
  | cons c cs ih => rw [cost_cons_self, ih]

/-- Another first character changes the cost by one edit at most. -/
lemma cost_replace_le : cost (c :: cs) es ≤ cost (d :: cs) es + 1 := by
  induction es with
  | nil => rw [cost_cons_nil, cost_cons_nil]; omega
  | cons e es ih =>
    rw [cost_cons_cons, cost_cons_cons]
    split <;> omega

/-- Texts whose costs differ by one edit at most still do behind a further character. -/
lemma cost_cons_mono (h : ∀ es, cost cs es ≤ cost ds es + 1) (c : Char) (es : List Char) :
    cost (c :: cs) es ≤ cost (c :: ds) es + 1 := by
  induction es with
  | nil => exact Nat.succ_le_succ (h [])
  | cons e es ih =>
    have hmatch := h es
    have hdelete := h (e :: es)
    rw [cost_cons_cons, cost_cons_cons]
    omega

/-- An edit changes the cost by one at most. -/
lemma Edit.cost_le (h : Edit cs ds) (es : List Char) : cost cs es ≤ cost ds es + 1 := by
  cases h with
  | insert front back c =>
    induction front generalizing es with
    | nil => exact le_cost_cons
    | cons e front ih => exact cost_cons_mono ih e es
  | delete front back c =>
    induction front generalizing es with
    | nil => exact cost_cons_le
    | cons e front ih => exact cost_cons_mono ih e es
  | substitute front back c d =>
    induction front generalizing es with
    | nil => exact cost_replace_le
    | cons e front ih => exact cost_cons_mono ih e es

/-- No script is shorter than the cost. -/
theorem cost_le_length (script : Script cs ds) : cost cs ds ≤ script.length := by
  induction script with
  | done cs => rw [cost_self]; exact Nat.zero_le _
  | step edit rest ih => exact le_trans (edit.cost_le _) (Nat.succ_le_succ ih)

/-- Some script is as long as the cost.

**Proof sketch.** Induction on both texts. Of the three ways to deal with the first characters one
attains the cost; a script for what is left is carried behind the character that is kept, or goes on
after the edit that is made. -/
theorem exists_script (cs ds : List Char) : ∃ script : Script cs ds, script.length = cost cs ds := by
  induction cs generalizing ds with
  | nil =>
    induction ds with
    | nil => exact ⟨.done [], rfl⟩
    | cons d ds ih =>
      obtain ⟨script, hscript⟩ := ih
      refine ⟨.step (.insert [] [] d) (script.map (d :: ·) fun h => h.cons d), ?_⟩
      simpa [Script.length] using hscript
  | cons c cs ih =>
    have hdelete (es : List Char) : ∃ script : Script (c :: cs) es,
        script.length = cost cs es + 1 := by
      obtain ⟨script, hscript⟩ := ih es
      exact ⟨.step (.delete [] cs c) script, congrArg (· + 1) hscript⟩
    induction ds with
    | nil => exact hdelete []
    | cons d ds ihds =>
      rw [cost_cons_cons]
      rcases min_choice (cost cs ds + if c = d then 0 else 1)
        (min (cost cs (d :: ds)) (cost (c :: cs) ds) + 1) with hmin | hmin
      · rw [hmin]
        obtain ⟨script, hscript⟩ := ih ds
        split
        · next hsame =>
          subst hsame
          exact ⟨script.map (c :: ·) fun h => h.cons c, by simpa using hscript⟩
        · refine ⟨.step (.substitute [] cs c d) (script.map (d :: ·) fun h => h.cons d), ?_⟩
          simpa [Script.length] using hscript
      · rw [hmin]
        rcases min_choice (cost cs (d :: ds)) (cost (c :: cs) ds) with hmin | hmin
        · rw [hmin]
          exact hdelete (d :: ds)
        · rw [hmin]
          obtain ⟨script, hscript⟩ := ihds
          refine ⟨.step (.insert [] (c :: cs) d) (script.map (d :: ·) fun h => h.cons d), ?_⟩
          simpa [Script.length] using hscript

/-! ## The table -/

/-- The cells of a row that come after the one for `sofar`: the costs of turning a text into
`sofar` with the characters of `ds` added to it one by one. -/
def rowFrom (cs sofar : List Char) : List Char → List Nat
  | [] => []
  | d :: ds => cost cs (d :: sofar) :: rowFrom cs (d :: sofar) ds

/-- The row of a text that is given in reverse. -/
def row (cs other : List Char) : List Nat :=
  cost cs [] :: rowFrom cs [] other

/-- The cells of the next row are costs if the cells at hand are. -/
lemma cells_rowFrom (c : Char) (cs sofar ds : List Char) :
    cells c (cost (c :: cs) sofar) (cost cs sofar) ds (rowFrom cs sofar ds) =
      rowFrom (c :: cs) sofar ds := by
  induction ds generalizing sofar with
  | nil => rfl
  | cons d ds ih =>
    have hcell : (if c = d then cost cs sofar
        else min (min (cost cs sofar) (cost (c :: cs) sofar)) (cost cs (d :: sofar)) + 1) =
        cost (c :: cs) (d :: sofar) := by
      split
      · next hsame => rw [hsame, cost_cons_self]
      · next hother => rw [cost_cons_cons, if_neg hother]; omega
    simp only [rowFrom, cells, hcell, ih]

/-- The next row is the row of the text with one more character. -/
theorem nextRow_row (c : Char) (cs other : List Char) :
    nextRow c other (row cs other) = row (c :: cs) other :=
  congrArg (cost (c :: cs) [] :: ·) (cells_rowFrom c cs [] other)

/-- Row by row the characters are taken in. -/
lemma rows_row (cs ds other : List Char) :
    rows other (row cs other) ds = row (ds.reverse ++ cs) other := by
  induction ds generalizing cs with
  | nil => rfl
  | cons d ds ih => rw [rows, nextRow_row, ih]; simp

/-- The row of the empty text counts insertions. -/
lemma rowFrom_nil (sofar ds : List Char) :
    rowFrom [] sofar ds = List.range' (sofar.length + 1) ds.length := by
  induction ds generalizing sofar with
  | nil => rfl
  | cons d ds ih => rw [rowFrom, ih, cost_nil, List.length_cons, List.length_cons, List.range'_succ]

/-- The last cell of a row belongs to the whole text. -/
lemma getLastD_rowFrom (cs sofar ds : List Char) (first : Nat) :
    (cost cs sofar :: rowFrom cs sofar ds).getLastD first = cost cs (ds.reverse ++ sofar) := by
  induction ds generalizing sofar with
  | nil => rfl
  | cons d ds ih =>
    rw [rowFrom, List.getLastD_cons, List.getLastD_cons, ← List.getLastD_cons, ih]
    simp

/-- The table of two texts ends with the cost of turning one, read backwards, into the other. -/
theorem fromTable_eq_cost (cs ds : List Char) : fromTable cs ds = cost cs.reverse ds.reverse := by
  have hfirst : List.range (ds.length + 1) = row [] ds := by
    rw [row, rowFrom_nil, List.range_eq_range', List.range'_succ]
    rfl
  rw [fromTable, hfirst, rows_row, row, getLastD_rowFrom, List.append_nil, List.append_nil]

/-- An empty text costs a deletion for each character. -/
lemma cost_nil_right (cs : List Char) : cost cs [] = cs.length := by
  induction cs with
  | nil => rfl
  | cons c cs ih => rw [cost_cons_nil, ih, List.length_cons]

/-- The distance of two texts is that cost, with a table or without. -/
theorem distance_eq_cost (cs ds : List Char) : distance cs ds = cost cs.reverse ds.reverse := by
  unfold distance
  split_ifs with hsame hempty hempty'
  · rw [hsame, cost_self]
  · rw [List.isEmpty_iff.1 hempty, List.reverse_nil, cost_nil, List.length_reverse]
  · rw [List.isEmpty_iff.1 hempty', List.reverse_nil, cost_nil_right, List.length_reverse]
  · exact fromTable_eq_cost cs ds

/-! ## Shortest scripts -/

/-- No script is shorter than the distance. -/
lemma distance_le_length (script : Script cs ds) : distance cs ds ≤ script.length := by
  rw [distance_eq_cost, ← script.length_map List.reverse Edit.reverse]
  exact cost_le_length _

/-- Some script is as long as the distance. -/
lemma exists_script_distance (cs ds : List Char) :
    ∃ script : Script cs ds, script.length = distance cs ds := by
  obtain ⟨script, hscript⟩ := exists_script cs.reverse ds.reverse
  have hback : ∃ script : Script cs.reverse.reverse ds.reverse.reverse,
      script.length = distance cs ds :=
    ⟨script.map List.reverse Edit.reverse, by rw [Script.length_map, hscript, distance_eq_cost]⟩
  rwa [List.reverse_reverse, List.reverse_reverse] at hback

/-- **The distance of two words is the least number of edits between them, letter case aside.** So
it is zero just for words that are the same in lower case, it is symmetric, and a way round is never
shorter.

**Proof sketch.** The last cell of the table is the cost, which is the length of a shortest script.
A script of no edits, one undone and one followed by another give the laws of a distance. -/
theorem least_edits (a b : String) :
    (∃ script : Script (Chars.lower a.toList) (Chars.lower b.toList),
      script.length = ofWords a b) ∧
    (∀ script : Script (Chars.lower a.toList) (Chars.lower b.toList),
      ofWords a b ≤ script.length) ∧
    (ofWords a b = 0 ↔ Text.lower a = Text.lower b) ∧
    ofWords a b = ofWords b a ∧
    ∀ c : String, ofWords a c ≤ ofWords a b + ofWords b c := by
  have hundo (cs ds : List Char) : distance cs ds ≤ distance ds cs := by
    obtain ⟨script, hscript⟩ := exists_script_distance ds cs
    rw [← hscript, ← script.length_undo]
    exact distance_le_length script.undo
  refine ⟨exists_script_distance _ _, distance_le_length, ⟨fun hzero => ?_, fun hsame => ?_⟩,
    le_antisymm (hundo _ _) (hundo _ _), fun c => ?_⟩
  · obtain ⟨script, hscript⟩ :=
      exists_script_distance (Chars.lower a.toList) (Chars.lower b.toList)
    exact congrArg String.ofList (script.eq_of_length_eq_zero (hscript.trans hzero))
  · have hlower : Chars.lower a.toList = Chars.lower b.toList := String.ofList_injective hsame
    have hdone := distance_le_length (.done (Chars.lower a.toList))
    rw [ofWords, ← hlower]
    exact Nat.le_zero.1 hdone
  · obtain ⟨script, hscript⟩ :=
      exists_script_distance (Chars.lower a.toList) (Chars.lower b.toList)
    obtain ⟨others, hothers⟩ :=
      exists_script_distance (Chars.lower b.toList) (Chars.lower c.toList)
    have hround := distance_le_length (script.append others)
    rwa [Script.length_append, hscript, hothers] at hround

/-- Two letters replaced and one added, letter case aside. -/
example : ofWords "Kitten" "SITTING" = 3 := by decide +kernel

end TaskShell.EditDistance
