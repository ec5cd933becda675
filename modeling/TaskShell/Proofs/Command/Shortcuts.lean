import TaskShell.Proofs.Command.Grammar
import TaskShell.Proofs.Text.Characters

/-!
# What shortcuts stand for

A shortcut is a word that lists the records of a kind, or it has several words and its first one heads
it: `install` and `add`, `done`, `start`, `man` or `help`. Words are read as keywords, that is with
each character as a letter of the basic alphabet, and a text reads as one keyword at most. So no
shortcut gets in the way of another, and each stands for one line.

## Main definitions

* `Shortcut.Reads` — a text reads as a keyword.
* `Shortcut.Stands` — the built-in shortcuts, and the lines that they stand for.
* `Shortcut.headings` — the words that head shortcuts of several words.

## Main results

* `Shortcut.takeWord_of_apart` — the first word of a text and what follows it.
* `Shortcut.builtin?_eq_some_iff` — the shortcuts are those that are expanded.
* `Shortcut.builtin?_of_heading` — a line whose first word heads no shortcut is none.
-/

set_option autoImplicit false

namespace TaskShell

open Text (isBlank isWord basicLower)

/-- What is left when the characters of a class are dropped begins with none of them. -/
lemma Chars.head_dropWhile (p : Char → Bool) (cs : List Char) :
    ∀ c ∈ (cs.dropWhile p).head?, p c = false := by
  intro c hc
  have hnot := List.head?_dropWhile_not p cs
  rw [Option.mem_def.1 hc] at hnot
  simpa using hnot

/-- What holds of all characters of a text holds of the first one, whatever follows the text. -/
lemma Chars.forall_head_append {P : Char → Prop} {cs : List Char} (hne : cs ≠ [])
    (h : ∀ c ∈ cs, P c) (rest : List Char) : ∀ c ∈ (cs ++ rest).head?, P c := by
  intro c hc
  rw [List.head?_append_of_ne_nil _ hne] at hc
  exact h c (List.mem_of_mem_head? hc)

namespace Shortcut

variable {line word tail rest cs : List Char} {words others : List String} {out : String}

/-! ## Words -/

/-- The first word of a text that goes on with a blank, if at all, and what follows the blanks. -/
lemma takeWord_of_apart (hword : ∀ c ∈ word, isBlank c = false)
    (htail : ∀ c ∈ tail.head?, isBlank c = true) :
    takeWord (word ++ tail) = (word, tail.dropWhile isBlank) := by
  have htake : (word ++ tail).takeWhile (fun c => !isBlank c) = word :=
    (Chars.takeWhile_run (by simpa using hword) (by simpa using htail)).1
  simp [takeWord, htake]

/-- The first word of a text, and what follows the blank behind it. -/
lemma takeWord_append (hword : ∀ c ∈ word, isBlank c = false)
    (hrest : ∀ c ∈ rest.head?, isBlank c = false) :
    takeWord (word ++ ' ' :: rest) = (word, rest) := by
  have hblank : ∀ c ∈ [' '], isBlank c = true := by decide
  have hdrop : ([' '] ++ rest).dropWhile isBlank = rest := (Chars.takeWhile_run hblank hrest).2
  rw [takeWord_of_apart hword (by simp [isBlank]), ← List.singleton_append, hdrop]

/-- If something is left behind the first word of a text, there are blanks between them. -/
lemma exists_gap_of_takeWord (h : takeWord line = (word, rest)) (hrest : rest ≠ []) :
    ∃ gap, line = word ++ (gap ++ rest) ∧ gap ≠ [] ∧ ∀ c ∈ gap, isBlank c = true := by
  have hsplit := List.takeWhile_append_dropWhile (p := fun c => !isBlank c) (l := line)
  have hword : ∀ c ∈ line.takeWhile fun c => !isBlank c, isBlank c = false := fun c hc => by
    simpa using List.mem_takeWhile_imp hc
  have htail : ∀ c ∈ (line.dropWhile fun c => !isBlank c).head?, isBlank c = true := fun c hc => by
    simpa using Chars.head_dropWhile _ line c hc
  generalize line.takeWhile (fun c => !isBlank c) = word' at hsplit hword
  generalize line.dropWhile (fun c => !isBlank c) = tail at hsplit htail
  rw [← hsplit, takeWord_of_apart hword htail] at h
  obtain ⟨rfl, rfl⟩ := Prod.mk.inj h
  refine ⟨tail.takeWhile isBlank, ?_, ?_, fun c hc => List.mem_takeWhile_imp hc⟩
  · rw [List.takeWhile_append_dropWhile, hsplit]
  · cases tail with
    | nil => exact absurd rfl hrest
    | cons c tail => simp [htail c rfl]

/-- Nothing stands behind the first word of an empty text. -/
lemma ne_nil_of_takeWord (h : takeWord line = (word, rest)) (hrest : rest ≠ []) : line ≠ [] := by
  rintro rfl
  exact hrest (Prod.mk.inj h).2.symm

/-! ## Keywords -/

/-- A text reads as a keyword: each of its characters is read as a letter of the basic alphabet. -/
def Reads (text : List Char) (keyword : String) : Prop :=
  text.map keyLetter = keyword.toList

instance (text : List Char) (keyword : String) : Decidable (Reads text keyword) :=
  inferInstanceAs (Decidable (_ = _))

/-- A text is one of some keywords just if it reads as one of them. -/
lemma isKeyword_iff : isKeyword words cs = true ↔ ∃ keyword ∈ words, Reads cs keyword := by
  simp only [isKeyword, List.contains_iff_mem, Reads]
  constructor
  · exact fun h => ⟨_, h, String.toList_ofList.symm⟩
  · rintro ⟨keyword, hmem, hreads⟩
    rwa [hreads, String.ofList_toList]

/-- Texts that differ in letter case alone read as the same keywords. -/
lemma map_keyLetter_of_fold {cs' : List Char} (h : cs.map basicLower = cs'.map basicLower) :
    cs.map keyLetter = cs'.map keyLetter := by
  have hkey : ∀ cs : List Char, cs.map keyLetter = (cs.map basicLower).map keyLetter :=
    fun cs => by simp
  rw [hkey cs, hkey cs', h]

/-- Texts that read alike are alike one of some keywords. -/
lemma isKeyword_congr {cs' : List Char} (h : cs.map keyLetter = cs'.map keyLetter)
    (words : List String) : isKeyword words cs = isKeyword words cs' := by
  rw [isKeyword, isKeyword, h]

/-- Texts that read alike are looked up alike. -/
lemma lookup?_congr {cs' : List Char} (h : cs.map keyLetter = cs'.map keyLetter)
    (groups : List (List String × String)) : lookup? groups cs = lookup? groups cs' := by
  simp only [lookup?, isKeyword_congr h]

/-- What is looked up is in an entry. -/
lemma exists_mem_of_lookup? {groups : List (List String × String)} {name : String}
    (h : lookup? groups cs = some name) : ∃ words, (words, name) ∈ groups := by
  obtain ⟨group, hfound, rfl⟩ := Option.map_eq_some_iff.1 h
  exact ⟨group.1, List.mem_of_find?_eq_some hfound⟩

/-- A text reads as one keyword at most. -/
lemma isKeyword_of_disjoint (h : isKeyword words cs = true) (hwords : ∀ w ∈ words, w ∉ others) :
    isKeyword others cs = false := by
  rw [isKeyword, List.contains_iff_mem] at h
  simpa [isKeyword] using hwords _ h

/-- A text that reads as a keyword has no blanks if the keyword has none. -/
lemma Reads.not_blank {keyword : String} (h : Reads cs keyword)
    (hkeyword : ∀ c ∈ keyword.toList, isBlank c = false) : ∀ c ∈ cs, isBlank c = false := by
  intro c hc
  by_contra hblank
  have hletter : c ∈ keyword.toList := by
    rw [← h]
    exact List.mem_map.2 ⟨c, hc, keyLetter_of_isBlank (by simpa using hblank)⟩
  exact hblank (hkeyword c hletter)

/-- A text reads as a keyword if it is the keyword in some letter case. -/
lemma reads_of_fold {keyword : String} (h : cs.map basicLower = keyword.toList)
    (hkeyword : keyword.toList.map keyLetter = keyword.toList) : Reads cs keyword := by
  rw [Reads, ← hkeyword, ← h, List.map_map]
  exact List.map_congr_left fun c _ => (keyLetter_basicLower c).symm

/-- A text reads as a keyword of basic characters without relatives outside of the basic alphabet just
if it is the keyword in some letter case. -/
lemma reads_iff_fold {keyword : String}
    (hkeyword : ∀ c ∈ keyword.toList, Text.IsBasic c ∧ c ∉ ['i', 's', 'k']) :
    Reads cs keyword ↔ cs.map basicLower = keyword.toList := by
  rw [Reads]
  generalize keyword.toList = letters at hkeyword
  induction cs generalizing letters with
  | nil => simp
  | cons c cs ih =>
    cases letters with
    | nil => simp
    | cons d letters =>
      obtain ⟨⟨hbasic, halone⟩, hletters⟩ := List.forall_mem_cons.1 hkeyword
      simp only [List.map_cons, List.cons.injEq, keyLetter_eq_iff hbasic halone, ih letters hletters]

/-! ## The commands that shortcuts stand for -/

/-- The words that head shortcuts for the status of a task, each with the status. -/
def progressions : List (String × String) := [("done", "completed"), ("start", "active")]

/-- The line that lists the records of a kind. -/
def listLine (plural : String) : String :=
  "list " ++ plural

/-- The line that creates a record of a kind with a title, which stands in quotes. -/
def createLine (kind title : String) : String :=
  "create " ++ kind ++ " \"" ++ title ++ "\""

/-- A line that sets the status of a task. -/
def statusLine (id status : String) : String :=
  "update task " ++ id ++ (" status:" ++ status)

/-- The line that opens a page of the manual. -/
def pageLine (topic : String) : String :=
  "man " ++ topic

/-- The built-in shortcuts, and the lines that they stand for. -/
inductive Stands (line : List Char) : String → Prop
  | listing {plural : String} (named : lookup? listings line = some plural) :
      Stands line (listLine plural)
  | creation {verb rest kind title : List Char} {name : String}
      (first : takeWord line = (verb, rest)) (second : takeWord rest = (kind, title))
      (heads : isKeyword ["install", "add"] verb = true)
      (named : lookup? creations kind = some name) (given : title ≠ []) (oneLine : '\n' ∉ title) :
      Stands line (createLine name (String.ofList (unquote title)))
  | progress {verb rest kind id : List Char} {head status : String}
      (first : takeWord line = (verb, rest)) (second : takeWord rest = (kind, id))
      (listed : (head, status) ∈ progressions) (heads : isKeyword [head] verb = true)
      (named : isKeyword ["tsk", "task"] kind = true) (given : id ≠ [])
      (whole : ∀ c ∈ id, isBlank c = false) :
      Stands line (statusLine (String.ofList id) status)
  | manual {verb topic : List Char} (first : takeWord line = (verb, topic))
      (heads : isKeyword ["man"] verb = true) (named : isKeyword ["unfold"] topic = true) :
      Stands line "man"
  | page {verb topic : List Char} (first : takeWord line = (verb, topic))
      (heads : isKeyword ["help"] verb = true) (given : topic ≠ [])
      (whole : ∀ c ∈ topic, isWord c = true) :
      Stands line (pageLine (String.ofList topic))

/-- A text with a blank lists no records. -/
lemma listing?_of_isBlank {c : Char} (hc : c ∈ line) (hblank : isBlank c = true) :
    listing? line = none := by
  have hwords : ∀ group ∈ listings, ∀ w ∈ group.1, ∀ d ∈ w.toList, isBlank d = false := by decide
  have hnone : listings.find? (fun group => isKeyword group.1 line) = none := by
    rw [List.find?_eq_none]
    intro group hgroup hkeyword
    obtain ⟨keyword, hmem, hreads⟩ := isKeyword_iff.1 hkeyword
    rw [hreads.not_blank (hwords group hgroup keyword hmem) c hc] at hblank
    exact nomatch hblank
  rw [listing?, lookup?, hnone]
  rfl

/-- A text with something behind its first word lists no records. -/
lemma listing?_of_rest (h : takeWord line = (word, rest)) (hrest : rest ≠ []) :
    listing? line = none := by
  obtain ⟨gap, rfl, hgap, hblank⟩ := exists_gap_of_takeWord h hrest
  obtain ⟨c, hc⟩ := List.exists_mem_of_ne_nil _ hgap
  exact listing?_of_isBlank (by simp [hc]) (hblank c hc)

/-! ### What is read is one of them -/

/-- A shortcut that lists records. -/
lemma stands_of_listing? (h : listing? line = some out) : Stands line out := by
  obtain ⟨plural, hnamed, rfl⟩ := Option.map_eq_some_iff.1 h
  exact .listing hnamed

/-- A shortcut that creates a record. -/
lemma stands_of_creation? (h : creation? line = some out) : Stands line out := by
  unfold creation? at h
  dsimp only at h
  split at h
  · next hmet =>
    simp only [Bool.and_eq_true, Bool.not_eq_true', List.isEmpty_eq_false_iff, List.contains_eq_mem,
      decide_eq_false_iff_not] at hmet
    obtain ⟨⟨hheads, hgiven⟩, honeLine⟩ := hmet
    obtain ⟨name, hnamed, rfl⟩ := Option.map_eq_some_iff.1 h
    exact .creation rfl rfl hheads hnamed hgiven honeLine
  · exact nomatch h

/-- A shortcut that sets the status of a task. -/
lemma stands_of_progress? (h : progress? line = some out) : Stands line out := by
  unfold progress? at h
  dsimp only at h
  split at h
  · next hmet =>
    simp only [Bool.and_eq_true, Bool.not_eq_true', List.isEmpty_eq_false_iff,
      List.any_eq_false, Bool.not_eq_true] at hmet
    obtain ⟨⟨hnamed, hgiven⟩, hwhole⟩ := hmet
    split at h
    · next hheads =>
      cases h
      exact .progress rfl rfl (.head _) hheads hnamed hgiven hwhole
    · split at h
      · next hheads =>
        cases h
        exact .progress rfl rfl (.tail _ (.head _)) hheads hnamed hgiven hwhole
      · exact nomatch h
  · exact nomatch h

/-- A shortcut that opens the manual or a page of it. -/
lemma stands_of_manual? (h : (manual? line).or (topic? line) = some out) : Stands line out := by
  unfold manual? topic? at h
  dsimp only at h
  rcases Option.or_eq_some_iff.1 h with h | ⟨-, h⟩
  · split at h
    · next hmet =>
      cases h
      obtain ⟨hheads, hnamed⟩ := Bool.and_eq_true_iff.1 hmet
      exact .manual rfl hheads hnamed
    · exact nomatch h
  · split at h
    · next hmet =>
      cases h
      simp only [Bool.and_eq_true, Bool.not_eq_true', List.isEmpty_eq_false_iff,
        List.all_eq_true] at hmet
      exact .page rfl hmet.1.1 hmet.1.2 hmet.2
    · exact nomatch h

/-- What is read as a shortcut is one. -/
lemma stands_of_builtin? (h : builtin? line = some out) : Stands line out := by
  unfold builtin? at h
  rcases Option.or_eq_some_iff.1 h with h | ⟨-, h⟩
  · exact stands_of_listing? h
  rcases Option.or_eq_some_iff.1 h with h | ⟨-, h⟩
  · exact stands_of_creation? h
  rcases Option.or_eq_some_iff.1 h with h | ⟨-, h⟩
  · exact stands_of_progress? h
  · exact stands_of_manual? h

/-! ### Every one of them is read -/

/-- A word other than those that head creations heads none. -/
lemma creation?_of_heading (h : takeWord line = (word, rest))
    (hword : isKeyword ["install", "add"] word = false) : creation? line = none := by
  simp [creation?, h, hword]

/-- A word other than those that head shortcuts for the status of a task heads none. -/
lemma progress?_of_heading (h : takeWord line = (word, rest)) (hdone : isKeyword ["done"] word = false)
    (hstart : isKeyword ["start"] word = false) : progress? line = none := by
  simp [progress?, h, hdone, hstart]

/-- A shortcut is read as what it stands for: no earlier one is headed by its first word. -/
lemma Stands.builtin?_eq (h : Stands line out) : builtin? line = some out := by
  -- a text that reads as one heading reads as no other
  have hother : ∀ {heading : String} {verb : List Char}, isKeyword [heading] verb = true →
      ∀ words : List String, heading ∉ words → isKeyword words verb = false :=
    fun hheads words hnot => isKeyword_of_disjoint hheads (List.forall_mem_singleton.2 hnot)
  cases h with
  | listing hnamed => simp [builtin?, listing?, hnamed, listLine]
  | creation hfirst hsecond hheads hnamed hgiven honeLine =>
    have hlisting := listing?_of_rest hfirst (ne_nil_of_takeWord hsecond hgiven)
    simp [builtin?, hlisting, creation?, hfirst, hsecond, hheads, hnamed, hgiven, honeLine, createLine]
  | @progress _ _ _ id _ _ hfirst hsecond hlisted hheads hnamed hgiven hwhole =>
    have hlisting := listing?_of_rest hfirst (ne_nil_of_takeWord hsecond hgiven)
    have hplain : id.any isBlank = false := by simpa using hwhole
    simp only [progressions, List.mem_cons, Prod.mk.injEq, List.not_mem_nil, or_false] at hlisted
    rcases hlisted with ⟨rfl, rfl⟩ | ⟨rfl, rfl⟩
    · rw [builtin?, hlisting, creation?_of_heading hfirst (hother hheads _ (by decide))]
      simp [progress?, hfirst, hsecond, hheads, hnamed, hgiven, hplain, statusLine]
    · rw [builtin?, hlisting, creation?_of_heading hfirst (hother hheads _ (by decide))]
      have hdone := hother hheads ["done"] (by decide)
      simp [progress?, hfirst, hsecond, hdone, hheads, hnamed, hgiven, hplain, statusLine]
  | @manual verb topic hfirst hheads hnamed =>
    have hgiven : topic ≠ [] := by
      rintro rfl
      exact absurd hnamed (by decide)
    rw [builtin?, listing?_of_rest hfirst hgiven,
      creation?_of_heading hfirst (hother hheads _ (by decide)),
      progress?_of_heading hfirst (hother hheads _ (by decide)) (hother hheads _ (by decide))]
    simp [manual?, hfirst, hheads, hnamed]
  | @page verb topic hfirst hheads hgiven hwhole =>
    have hmanual : manual? line = none := by
      simp [manual?, hfirst, hother hheads ["man"] (by decide)]
    rw [builtin?, listing?_of_rest hfirst hgiven,
      creation?_of_heading hfirst (hother hheads _ (by decide)),
      progress?_of_heading hfirst (hother hheads _ (by decide)) (hother hheads _ (by decide)), hmanual]
    simpa [topic?, hfirst, hheads, hgiven, pageLine] using hwhole

/-- **The shortcuts are those that are expanded**, and each stands for one line. -/
theorem builtin?_eq_some_iff : builtin? line = some out ↔ Stands line out :=
  ⟨stands_of_builtin?, Stands.builtin?_eq⟩

/-! ## Lines that are no shortcuts -/

/-- The words that head shortcuts of several words. -/
def headings : List String := ["install", "add", "done", "start", "man", "help"]

/-- A shortcut lists records, or its first word heads it. -/
lemma Stands.isKeyword_headings (h : Stands line out) (hlisting : listing? line = none)
    (hfirst : takeWord line = (word, rest)) : isKeyword headings word = true := by
  have hheads : ∀ {words : List String} {verb other : List Char}, takeWord line = (verb, other) →
      isKeyword words verb = true → words ⊆ headings → isKeyword headings word = true := by
    intro words verb other hverb hkeyword hsubset
    rw [hfirst] at hverb
    rw [(Prod.mk.inj hverb).1]
    obtain ⟨keyword, hmem, hreads⟩ := isKeyword_iff.1 hkeyword
    exact isKeyword_iff.2 ⟨keyword, hsubset hmem, hreads⟩
  cases h with
  | listing hnamed =>
    rw [listing?, hnamed] at hlisting
    exact nomatch hlisting
  | creation hverb _ hkeyword => exact hheads hverb hkeyword (by decide)
  | progress hverb _ hlisted hkeyword =>
    refine hheads hverb hkeyword ?_
    have hall : ∀ p ∈ progressions, [p.1] ⊆ headings := by decide
    exact hall _ hlisted
  | manual hverb hkeyword => exact hheads hverb hkeyword (by decide)
  | page hverb hkeyword => exact hheads hverb hkeyword (by decide)

/-- A line whose first word heads no shortcut is none. -/
lemma builtin?_of_heading (hword : ∀ c ∈ word, isBlank c = false)
    (hrest : ∀ c ∈ rest.head?, isBlank c = false) (h : isKeyword headings word = false) :
    builtin? (word ++ ' ' :: rest) = none := by
  rw [Option.eq_none_iff_forall_ne_some]
  intro out hout
  have hlisting : listing? (word ++ ' ' :: rest) = none :=
    listing?_of_isBlank (c := ' ') (by simp) (by decide)
  rw [(stands_of_builtin? hout).isKeyword_headings hlisting (takeWord_append hword hrest)] at h
  exact nomatch h

end Shortcut

end TaskShell
