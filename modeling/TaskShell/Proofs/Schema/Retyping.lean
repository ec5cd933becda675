import Mathlib.Tactic.Lemma
import TaskShell.Proofs.Command.Titles
import TaskShell.Proofs.Schema.Building
import TaskShell.Proofs.Settings.Path
import TaskShell.Proofs.Text.Case
import TaskShell.Value.Display

/-!
# Values are typed as they are shown

A list is shown with a comma and a space between its items, and it is read by cutting at commas and
trimming the pieces. An item that was read has no comma, no blank at its ends, and is not empty. So the
pieces of the text that shows such items are these items again, all but the first with a space before
them, and the text is read as the list that it shows. A choice is read in lower case, which stays as it
is when it is read again, and a text is shown as it is.

## Main definitions

* `Field.IsItem` — the items of lists.
* `Field.Retypes` — a value that is read from the text that shows it.

## Main results

* `Field.items_join` — the items of the text that shows some items.
* `Field.exists_convert_iff` — the lists that are read are those of such items.
* `Field.retypes_of_convert` — what is read for any field but a number is read again when it is shown.
-/

set_option autoImplicit false

namespace TaskShell

open Text (isBlank)

/-! ## Texts with commas between them -/

namespace Text

/-- A text before the first of some joined texts is joined with them. -/
lemma join_append_cons (separator before first : String) (rest : List String) :
    join separator ((before ++ first) :: rest) = before ++ join separator (first :: rest) := by
  cases rest with
  | nil => rfl
  | cons second rest => simp [join, String.append_assoc]

/-- Where texts are joined with a gap after each separator, the gaps may count as the beginnings of all
texts but the first. -/
lemma join_append (separator gap first : String) (rest : List String) :
    join (separator ++ gap) (first :: rest) = join separator (first :: rest.map (gap ++ ·)) := by
  induction rest generalizing first with
  | nil => rfl
  | cons second rest ih =>
    calc join (separator ++ gap) (first :: second :: rest)
        = first ++ (separator ++ gap) ++ join (separator ++ gap) (second :: rest) := rfl
      _ = first ++ separator ++ (gap ++ join separator (second :: rest.map (gap ++ ·))) := by
          rw [ih]
          simp only [String.append_assoc]
      _ = join separator (first :: (second :: rest).map (gap ++ ·)) := by
          rw [← join_append_cons]
          rfl

/-- A space before a text is trimmed with it. -/
lemma trim_space_append (s : String) : trim (" " ++ s) = trim s := by
  have hspace : isBlank ' ' = true := by decide
  rw [trim, trim, String.toList_append]
  exact congrArg (fun cs => String.ofList (Chars.dropEnd isBlank cs))
    (List.dropWhile_cons_of_pos hspace)

end Text

namespace Field

variable {f : Field} {raw item : String} {items : List String} {value : Value}

/-! ## Items -/

/-- An item of a list: it is not empty, has no comma, and neither begins nor ends with a blank. -/
structure IsItem (item : String) : Prop where
  ne_empty : item ≠ ""
  comma : ',' ∉ item.toList
  head : ∀ c ∈ item.toList.head?, isBlank c = false
  last : ∀ c ∈ item.toList.getLast?, isBlank c = false

/-- An item is trimmed. -/
lemma IsItem.trim_eq (h : IsItem item) : Text.trim item = item := by
  rw [Text.trim, Token.trim_of_ends h.head h.last, String.ofList_toList]

/-- The items of a text are items. -/
lemma isItem_of_mem_items (h : item ∈ Field.items raw) : IsItem item := by
  obtain ⟨htrimmed, hkept⟩ := List.mem_filter.1 h
  obtain ⟨_, hpiece, rfl⟩ := List.mem_map.1 htrimmed
  obtain ⟨piece, hcut, rfl⟩ := List.mem_map.1 hpiece
  have hchars : (Text.trim (String.ofList piece)).toList = Chars.trim piece := by simp [Text.trim]
  refine ⟨by simpa using hkept, ?_, ?_, ?_⟩
  · rw [hchars]
    exact fun hcomma => Chars.notMem_of_mem_cut hcut (Chars.trim_subset piece hcomma)
  · rw [hchars]
    exact Chars.head_trim piece
  · rw [hchars]
    exact Chars.getLast_trim piece

/-- **The items of a text that shows items.** Items with a comma and a space between them are read as
these items.

**Proof sketch.** Such a text has a comma between the first item and the others, each of which has a
space before it. No item has a comma, so that cutting gives back these pieces, and trimming takes the
spaces away and nothing else. -/
theorem items_join (h : ∀ item ∈ items, IsItem item) :
    Field.items (Text.join ", " items) = items := by
  cases items with
  | nil => decide
  | cons first rest =>
    obtain ⟨hfirst, hrest⟩ := List.forall_mem_cons.1 h
    have hcommas : ∀ text ∈ first :: rest.map (" " ++ ·), ',' ∉ text.toList := by
      refine List.forall_mem_cons.2 ⟨hfirst.comma, ?_⟩
      simpa using fun item hitem => (hrest item hitem).comma
    have hcut : Text.cut ',' (Text.join ", " (first :: rest)) = first :: rest.map (" " ++ ·) :=
      (congrArg (Text.cut ',') (Text.join_append "," " " first rest)).trans
        (Text.cut_join (List.cons_ne_nil _ _) hcommas)
    have htrim : (rest.map (" " ++ ·)).map Text.trim = rest := by
      rw [List.map_map]
      refine (List.map_congr_left fun item hitem => ?_).trans (List.map_id rest)
      exact (Text.trim_space_append item).trans (hrest item hitem).trim_eq
    rw [Field.items, hcut, List.map_cons, hfirst.trim_eq, htrim]
    exact List.filter_eq_self.2 fun item hitem => by simpa using (h item hitem).ne_empty

/-- A list of texts is shown with a comma and a space between them. -/
lemma shown_texts (items : List String) :
    (Value.list (items.map .text)).shown = Text.join ", " items := by
  simp [Value.shown, Value.display, Function.comp_def]

/-- The lists that are read are the lists of items. -/
theorem exists_convert_iff (hkind : f.kind = .list) :
    (∃ raw, f.convert raw = .ok (.list (items.map .text))) ↔ ∀ item ∈ items, IsItem item := by
  have hconvert : ∀ raw, f.convert raw = .ok (.list ((Field.items raw).map .text)) := fun raw => by
    simp only [convert, hkind]
  constructor
  · rintro ⟨raw, hraw⟩
    rw [hconvert, Except.ok.injEq, Value.list.injEq,
      List.map_inj_right fun _ _ => Value.text.inj] at hraw
    exact hraw ▸ fun item => isItem_of_mem_items
  · intro h
    exact ⟨Text.join ", " items, by rw [hconvert, items_join h]⟩

/-! ## Values of fields -/

/-- A value of a field is read from the text that shows it, and there is no problem with this text. -/
structure Retypes (f : Field) (value : Value) : Prop where
  accepted : f.problem? value.shown = none
  read : f.convert value.shown = .ok value

/-- A value that is read from the text that shows it is shown by some text, unless it is hidden. -/
lemma Retypes.shown_ne_empty (h : f.Retypes value) (hhidden : value.isHidden = false) :
    value.shown ≠ "" := by
  intro hempty
  have hlower : Text.lower "" = "" := by decide
  have hitems : Field.items "" = [] := by decide
  have hnumber : Number.readFloat? "" = none := by decide
  have hread := h.read
  rw [hempty] at hread
  unfold convert at hread
  -- what the empty text is read as is hidden
  split at hread
  · cases hread
    exact nomatch hhidden
  · rw [hlower] at hread
    cases hread
    exact nomatch hhidden
  · rw [hitems] at hread
    cases hread
    exact nomatch hhidden
  · rw [hnumber] at hread
    exact nomatch hread

/-- There is no problem with the lower case of a choice that has none. -/
lemma problem?_lower {words : List String} (hkind : f.kind = .choice words)
    (h : f.problem? raw = none) : f.problem? (Text.lower raw) = none := by
  unfold problem? at h ⊢
  rw [hkind] at h ⊢
  by_cases hraw : raw = ""
  · have hlower : Text.lower "" = "" := by decide
    rw [hraw, hlower, if_pos rfl]
  · rw [if_neg hraw] at h
    have hword := lower_mem_of_rejection? (Option.map_eq_none_iff.1 h)
    simp [Choice.rejection?, hword]

/-- **Values are typed as they are shown.** Whatever is read for a field that is not a number, from a
text without a problem, is read from the text that shows it. -/
theorem retypes_of_convert (hkind : f.kind ≠ .number) (hproblem : f.problem? raw = none)
    (h : f.convert raw = .ok value) : f.Retypes value := by
  cases hf : f.kind with
  | text =>
    obtain rfl : Value.text raw = value := by simpa only [convert, hf, Except.ok.injEq] using h
    exact ⟨hproblem, h⟩
  | choice words =>
    obtain rfl : Value.text (Text.lower raw) = value := by
      simpa only [convert, hf, Except.ok.injEq] using h
    exact ⟨problem?_lower hf hproblem, by simp [convert, hf, Value.shown, Value.display]⟩
  | list =>
    obtain rfl : Value.list ((items raw).map .text) = value := by
      simpa only [convert, hf, Except.ok.injEq] using h
    refine ⟨by simp [problem?, hf], ?_⟩
    rw [shown_texts, convert, hf, items_join fun item => isItem_of_mem_items]
  | number => exact absurd hf hkind

end Field

end TaskShell
