import Mathlib.Data.List.Basic
import Mathlib.Tactic.Lemma
import TaskShell.Settings.Path

/-!
# Tidy paths

A path that was read from a text is tidy: it has neither empty parts nor `.`, and no part holds a
slash. The text of a tidy path reads as that path. Where home directories are absolute, a path in
which `~` has been replaced is tidy and stands for itself: whatever the home directories, replacing
`~` again does nothing.

## Main definitions

* `Path.Tidy` — paths as texts give them.
* `Path.Settled` — paths that do not begin with `~`.
* `Home.Absolute` — home directories that begin with a slash.

## Main results

* `Path.ofText_text` — the text of a tidy path reads as the path.
* `Path.Settled.expand?_eq` — a path that does not begin with `~` stands for itself.
* `Path.tidy_settled_of_expand?` — replacing `~` leaves a tidy path that does not begin with it.
-/

set_option autoImplicit false

namespace TaskShell

/-! ## Pieces of texts -/

/-- The pieces of a text are what stands between the marks. -/
lemma Chars.cut_eq_splitOn (mark : Char) (cs : List Char) : cut mark cs = cs.splitOn mark := by
  induction cs with
  | nil => rfl
  | cons c cs ih =>
    rw [cut, ih]
    simp only [List.splitOn, List.splitOnP_cons_eq_if_modifyHead, beq_iff_eq]
    by_cases hc : c = mark
    · rw [if_pos hc, if_pos hc]
    · rw [if_neg hc, if_neg hc]
      cases hpieces : cs.splitOnP (· == mark) with
      | nil => exact absurd hpieces (List.splitOnP_ne_nil _ _)
      | cons piece pieces => rfl

/-- No piece holds the mark. -/
lemma Chars.notMem_of_mem_cut {mark : Char} {cs piece : List Char} (h : piece ∈ cut mark cs) :
    mark ∉ piece := by
  induction cs generalizing piece with
  | nil => simp [List.mem_singleton.1 h]
  | cons c cs ih =>
    rw [cut] at h
    split at h
    · rcases List.mem_cons.1 h with rfl | hrest
      · exact List.not_mem_nil
      · exact ih hrest
    · next hc =>
      cases hpieces : cut mark cs with
      | nil =>
        rw [hpieces] at h
        simpa [List.mem_singleton.1 h] using Ne.symm hc
      | cons first pieces =>
        rw [hpieces] at h ih
        rcases List.mem_cons.1 h with rfl | hrest
        · simpa [Ne.symm hc] using ih List.mem_cons_self
        · exact ih (List.mem_cons_of_mem _ hrest)

/-- The characters of texts with a separator between them. -/
lemma Text.toList_join_eq_intercalate (separator : String) (texts : List String) :
    (join separator texts).toList = separator.toList.intercalate (texts.map String.toList) := by
  induction texts with
  | nil => rfl
  | cons s rest ih =>
    cases rest with
    | nil => simp [join]
    | cons t rest =>
      rw [join, String.toList_append, String.toList_append, ih]
      · simp
      · exact List.cons_ne_nil t rest

/-- Cutting joined texts gives them back, if the mark stands in none of them. -/
lemma Text.cut_join {mark : Char} {texts : List String} (hne : texts ≠ [])
    (h : ∀ text ∈ texts, mark ∉ text.toList) :
    cut mark (join (String.singleton mark) texts) = texts := by
  have hpieces : ∀ piece ∈ texts.map String.toList, mark ∉ piece := by simpa using h
  have hsplit := List.splitOn_intercalate mark hpieces (by simpa using hne)
  rw [cut, Chars.cut_eq_splitOn, toList_join_eq_intercalate, String.toList_singleton, hsplit,
    List.map_map]
  simp [Function.comp_def]

/-! ## Tidy paths -/

namespace Path

variable {p q : Path} {home : Home}

/-- A path as a text gives it: no part is empty, is `.` or holds a slash, and at most two slashes
stand at its beginning. -/
structure Tidy (p : Path) : Prop where
  root : p.root ∈ ["", "/", "//"]
  parts : ∀ part ∈ p.parts, part ≠ "" ∧ part ≠ "." ∧ '/' ∉ part.toList

/-- A path does not begin with `~`, so that it stands for itself. -/
def Settled (p : Path) : Prop :=
  p.root = "" → ∀ part ∈ p.parts.head?, part.toList.head? ≠ some '~'

/-- The root of a path has at most two slashes. -/
lemma rootOf_mem (cs : List Char) : rootOf cs ∈ ["", "/", "//"] := by
  unfold rootOf
  split <;> decide

/-- A path from a text is tidy. -/
lemma tidy_ofText (s : String) : (ofText s).Tidy := by
  refine ⟨rootOf_mem _, fun part hpart => ?_⟩
  obtain ⟨hpiece, hkept⟩ := List.mem_filter.1 hpart
  obtain ⟨piece, hcut, rfl⟩ := List.mem_map.1 hpiece
  refine ⟨?_, ?_, ?_⟩
  · rintro hempty
    simp [hempty] at hkept
  · rintro hdot
    simp [hdot] at hkept
  · rw [String.toList_ofList]
    exact Chars.notMem_of_mem_cut hcut

/-- The parts of a tidy path are those of its joined parts. -/
lemma Tidy.parts_join (h : p.Tidy) : (Text.cut '/' (Text.join "/" p.parts)).filter
    (fun part => part != "" && part != ".") = p.parts := by
  cases hparts : p.parts with
  | nil => decide
  | cons part parts =>
    have hcut : Text.cut '/' (Text.join "/" (part :: parts)) = part :: parts :=
      Text.cut_join (List.cons_ne_nil part parts) fun text htext =>
        (h.parts text (hparts ▸ htext)).2.2
    rw [hcut]
    refine List.filter_eq_self.2 fun text htext => ?_
    have hpart := h.parts text (hparts ▸ htext)
    simp [hpart.1, hpart.2.1]

/-- The joined parts of a tidy path do not begin with a slash. -/
lemma Tidy.head_join (h : p.Tidy) : (Text.join "/" p.parts).toList.head? ≠ some '/' := by
  rw [Text.toList_join_eq_intercalate]
  cases hparts : p.parts with
  | nil => simp
  | cons part parts =>
    obtain ⟨hne, -, hslash⟩ := h.parts part (hparts ▸ List.mem_cons_self)
    cases hchars : part.toList with
    | nil => exact absurd (String.toList_eq_nil_iff.1 hchars) hne
    | cons c cs =>
      have hc : c ≠ '/' := fun hc => hslash (by simp [hchars, hc])
      cases parts <;> simpa [hchars] using hc

/-- The slashes before a text that does not begin with one are its root. -/
lemma rootOf_append {root : String} {cs : List Char} (hroot : root ∈ ["", "/", "//"])
    (h : cs.head? ≠ some '/') : rootOf (root.toList ++ cs) = root := by
  have hnone : cs.takeWhile (· == '/') = [] := by
    cases cs with
    | nil => rfl
    | cons c cs => exact List.takeWhile_cons_of_neg (by simpa using h)
  simp only [List.mem_cons, List.not_mem_nil, or_false] at hroot
  rcases hroot with rfl | rfl | rfl <;> simp [rootOf, hnone]

/-- The slashes of a root make no parts. -/
lemma filter_cut_append {root : String} (hroot : root ∈ ["", "/", "//"]) (s : String)
    {keep : String → Bool} (hkeep : keep "" = false) :
    (Text.cut '/' (root ++ s)).filter keep = (Text.cut '/' s).filter keep := by
  simp only [List.mem_cons, List.not_mem_nil, or_false] at hroot
  rcases hroot with rfl | rfl | rfl <;> simp [Text.cut, Chars.cut, hkeep]

/-- **Tidy paths read back.** The text of a tidy path reads as the path. -/
theorem ofText_text (h : p.Tidy) : ofText p.text = p := by
  obtain ⟨root, parts⟩ := p
  by_cases hempty : root = "" ∧ parts.isEmpty
  · obtain ⟨rfl, hparts⟩ := hempty
    obtain rfl := List.isEmpty_iff.1 hparts
    decide
  · rw [text, if_neg hempty, ofText, String.toList_append, rootOf_append h.root h.head_join,
      filter_cut_append h.root _ (by decide), h.parts_join]

/-- The text of a tidy path is not empty. -/
lemma Tidy.text_ne_empty (h : p.Tidy) : p.text ≠ "" := by
  obtain ⟨root, parts⟩ := p
  unfold text
  split
  · decide
  · next hempty =>
    intro hnone
    obtain ⟨hroot, hjoin⟩ := String.append_eq_empty_iff.1 hnone
    have hparts := h.parts_join
    rw [hjoin] at hparts
    obtain rfl : parts = [] := hparts.symm
    exact hempty ⟨hroot, rfl⟩

/-! ## Replacing `~` -/

/-- A path that does not begin with `~` stands for itself. -/
lemma Settled.expand?_eq (h : p.Settled) (home : Home) : p.expand? home = some p := by
  unfold expand?
  split
  · next part rest hroot hparts =>
    split
    · next name htilde => exact absurd (by rw [htilde]; rfl) (h hroot part (by simp [hparts]))
    · rfl
  · rfl

/-- It asks for no account. -/
lemma Settled.namesNull_eq (h : p.Settled) : p.namesNull = false := by
  unfold namesNull
  split
  · next part rest hroot hparts =>
    split
    · next name htilde => exact absurd (by rw [htilde]; rfl) (h hroot part (by simp [hparts]))
    · rfl
  · rfl

end Path

/-! ## Home directories -/

namespace Home

variable {home : Home} {directory : String}

/-- A directory is an absolute path. -/
def IsAbsolute (directory : String) : Prop :=
  directory.toList.head? = some '/'

instance : Decidable (IsAbsolute directory) :=
  inferInstanceAs (Decidable (_ = _))

/-- Home directories that are absolute paths. -/
structure Absolute (home : Home) : Prop where
  own : IsAbsolute home.own
  accounts : ∀ account ∈ home.accounts, IsAbsolute account.2

/-- A directory stays absolute without slashes at its end. -/
lemma isAbsolute_trimmed (h : IsAbsolute directory) : IsAbsolute (trimmed directory) := by
  unfold trimmed
  have hprefix : Chars.dropEnd (· == '/') directory.toList <+: directory.toList :=
    List.reverse_suffix.1 (by simpa [Chars.dropEnd] using List.dropWhile_suffix _)
  dsimp only
  split
  · decide
  · next hempty =>
    rw [IsAbsolute, String.toList_ofList]
    obtain ⟨dropped, hdropped⟩ := hprefix
    rw [IsAbsolute, ← hdropped] at h
    cases hkept : Chars.dropEnd (· == '/') directory.toList with
    | nil => simp [hkept] at hempty
    | cons c cs => simpa [hkept] using h

/-- What `~` stands for is an absolute path, where home directories are. -/
lemma Absolute.directory? (h : home.Absolute) {name : List Char}
    (hdirectory : home.directory? name = some directory) : IsAbsolute directory := by
  unfold Home.directory? at hdirectory
  split at hdirectory
  · cases hdirectory
    exact isAbsolute_trimmed h.own
  · obtain ⟨account, haccount, rfl⟩ := Option.map_eq_some_iff.1 hdirectory
    exact isAbsolute_trimmed (h.accounts _ (Entries.mem_of_value? haccount))

end Home

namespace Path

variable {p q : Path} {home : Home}

/-- The root of an absolute path is not empty. -/
lemma root_ofText_ne_empty {directory : String} (h : Home.IsAbsolute directory) :
    (ofText directory).root ≠ "" := by
  rw [Home.IsAbsolute] at h
  rw [ofText, rootOf]
  cases hchars : directory.toList with
  | nil => simp [hchars] at h
  | cons c cs =>
    obtain rfl : c = '/' := by simpa [hchars] using h
    rw [List.takeWhile_cons_of_pos (by rfl), List.length_cons]
    split <;> simp_all

/-- A path that stands for something stands for itself, or for what a home directory holds. -/
lemma expand?_cases (h : p.expand? home = some q) : (p.Settled ∧ q = p) ∨
    ∃ part rest name directory, p.parts = part :: rest ∧ home.directory? name = some directory ∧
      q = ⟨(ofText directory).root, (ofText directory).parts ++ rest⟩ := by
  unfold expand? at h
  split at h
  · next part rest hroot hparts =>
    split at h
    · next name htilde =>
      cases hdirectory : home.directory? name with
      | none =>
        rw [hdirectory] at h
        exact nomatch h
      | some directory =>
        rw [hdirectory] at h
        dsimp only at h
        split at h
        · exact nomatch h
        · cases h
          exact .inr ⟨part, rest, name, directory, hparts, hdirectory, rfl⟩
    · next htilde =>
      cases h
      refine .inl ⟨fun _ first hfirst => ?_, rfl⟩
      obtain rfl : part = first := by simpa [hparts] using hfirst
      intro hhead
      obtain ⟨name, hname⟩ := List.head?_eq_some_iff.1 hhead
      exact htilde name hname
  · next hroot =>
    cases h
    refine .inl ⟨fun hempty first hfirst => ?_, rfl⟩
    obtain ⟨rest, hparts⟩ := List.head?_eq_some_iff.1 hfirst
    exact absurd hparts (hroot first rest hempty)

/-- **What tidy paths stand for.** With absolute home directories, what a tidy path stands for is a
tidy path that does not begin with `~`. -/
theorem tidy_settled_of_expand? (habsolute : home.Absolute) (h : p.Tidy)
    (hexpand : p.expand? home = some q) : q.Tidy ∧ q.Settled := by
  rcases expand?_cases hexpand with ⟨hsettled, rfl⟩ | ⟨part, rest, name, directory, hparts,
    hdirectory, rfl⟩
  · exact ⟨h, hsettled⟩
  · have hbase := tidy_ofText directory
    have hroot := root_ofText_ne_empty (habsolute.directory? hdirectory)
    refine ⟨⟨hbase.root, fun text htext => ?_⟩, fun hempty => absurd hempty hroot⟩
    rcases List.mem_append.1 htext with hin | hin
    · exact hbase.parts text hin
    · exact h.parts text (hparts ▸ List.mem_cons_of_mem part hin)

end Path

end TaskShell
