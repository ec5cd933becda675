import Mathlib.Data.List.Chain
import Mathlib.Data.List.TakeWhile
import Mathlib.Tactic.Lemma
import TaskShell.Command.Token

/-!
# The grammar of command lines

The characters of a line fall into blanks and words, and those of a word into segments: runs of
plain characters, and spans that a quote opens and the next one of its kind closes. Blanks separate
words, and two plain runs never touch. Only at the end of the line may a span stay open. Every line
has exactly one such layout, and its tokens are what the segments of each word hold.

## Main definitions

* `Segment`, `Word`, `Layout` — the parts of a line, and a line taken apart.
* `Segment.WellFormed`, `Word.WellFormed`, `Layout.WellFormed` — the rules above.
* `Word.token`, `Layout.tokens` — the tokens that words spell.

## Main results

* `split_spelling` — the tokens of a line are those of its layout.
* `Layout.WellFormed.unique`, `exists_layout` — every line has exactly one layout.
-/

set_option autoImplicit false

namespace TaskShell

/-- A run of characters of a class, before a text that begins with none of them, is what is taken
from the front, and the text is what is left. -/
lemma Chars.takeWhile_run {p : Char → Bool} {run rest : List Char} (hrun : ∀ c ∈ run, p c = true)
    (hrest : ∀ c ∈ rest.head?, p c = false) :
    (run ++ rest).takeWhile p = run ∧ (run ++ rest).dropWhile p = rest := by
  rw [List.takeWhile_append_of_pos hrun, List.dropWhile_append_of_pos hrun]
  cases rest with
  | nil => simp
  | cons c rest =>
    have hc : p c = false := hrest c rfl
    simp [hc]

/-- A text begins in one way with a run of characters of a class. -/
lemma Chars.run_unique {p : Char → Bool} {run run' rest rest' : List Char}
    (hrun : ∀ c ∈ run, p c = true) (hrun' : ∀ c ∈ run', p c = true)
    (hrest : ∀ c ∈ rest.head?, p c = false) (hrest' : ∀ c ∈ rest'.head?, p c = false)
    (h : run ++ rest = run' ++ rest') : run = run' ∧ rest = rest' := by
  obtain ⟨htake, hdrop⟩ := takeWhile_run hrun hrest
  obtain ⟨htake', hdrop'⟩ := takeWhile_run hrun' hrest'
  rw [h] at htake hdrop
  exact ⟨htake.symm.trans htake', hdrop.symm.trans hdrop'⟩

namespace Token

/-! ## Segments, words and layouts -/

/-- Whether a character stands for itself outside of quotes. -/
def isPlain (c : Char) : Bool :=
  !isQuote c && !Text.isBlank c

/-- A part of a word: a run of plain characters, or a span that a mark opens, and closes too unless
the line ends first. -/
inductive Segment
  | plain (content : List Char)
  | quoted (mark : Char) (content : List Char) (closed : Bool)
  deriving DecidableEq, Repr

namespace Segment

/-- The characters that a segment stands for. -/
def content : Segment → List Char
  | .plain cs => cs
  | .quoted _ cs _ => cs

/-- A segment as it stands in a line. -/
def spelling : Segment → List Char
  | .plain cs => cs
  | .quoted mark cs closed => mark :: cs ++ if closed then [mark] else []

/-- Whether a segment is a span. -/
def isQuoted : Segment → Bool
  | .plain _ => false
  | .quoted .. => true

/-- Whether a segment ends before the line does. -/
def isClosed : Segment → Bool
  | .plain _ => true
  | .quoted _ _ closed => closed

/-- A run is not empty and has plain characters only; a span has a quote as its mark, which does not
occur in it. -/
def WellFormed : Segment → Prop
  | .plain cs => cs ≠ [] ∧ ∀ c ∈ cs, isPlain c = true
  | .quoted mark cs _ => isQuote mark = true ∧ mark ∉ cs

instance : ∀ s : Segment, Decidable s.WellFormed
  | .plain cs =>
    decidable_of_iff (cs ≠ [] ∧ cs.all isPlain = true) (and_congr_right' List.all_eq_true)
  | .quoted .. => inferInstanceAs (Decidable (_ ∧ _))

/-- A segment may stand right before another one: it is closed, and not both are plain runs. -/
def MayTouch (s next : Segment) : Prop :=
  s.isClosed = true ∧ (s.isQuoted = true ∨ next.isQuoted = true)

instance (s next : Segment) : Decidable (s.MayTouch next) :=
  inferInstanceAs (Decidable (_ ∧ _))

end Segment

/-- A word: segments that touch. -/
abbrev Word := List Segment

namespace Word

/-- A word as it stands in a line. -/
def spelling (w : Word) : List Char :=
  w.flatMap Segment.spelling

/-- The characters that a word stands for. -/
def content (w : Word) : List Char :=
  w.flatMap Segment.content

/-- Whether a word begins with a quote. -/
def isQuoted (w : Word) : Bool :=
  w.head?.any Segment.isQuoted

/-- Whether a word ends before the line does. -/
def isClosed (w : Word) : Bool :=
  w.all Segment.isClosed

/-- The token that a word spells. -/
def token (w : Word) : Token :=
  ⟨w.content, w.isQuoted⟩

/-- A word is spelled segment by segment. -/
@[simp] lemma spelling_cons (s : Segment) (w : Word) :
    spelling (s :: w) = s.spelling ++ spelling w :=
  List.flatMap_cons

/-- A word stands for what its segments stand for. -/
@[simp] lemma content_cons (s : Segment) (w : Word) : content (s :: w) = s.content ++ content w :=
  List.flatMap_cons

/-- A word is closed just if its segments are. -/
@[simp] lemma isClosed_cons (s : Segment) (w : Word) :
    isClosed (s :: w) = (s.isClosed && isClosed w) :=
  List.all_cons

/-- Segments that may follow each other as they do. -/
structure Joined (w : Word) : Prop where
  segments : ∀ s ∈ w, s.WellFormed
  touching : w.IsChain Segment.MayTouch

instance (w : Word) : Decidable w.Joined :=
  decidable_of_iff ((∀ s ∈ w, s.WellFormed) ∧ w.IsChain Segment.MayTouch)
    ⟨fun ⟨hsegments, htouching⟩ => ⟨hsegments, htouching⟩, fun h => ⟨h.segments, h.touching⟩⟩

/-- A word has at least one segment. -/
structure WellFormed (w : Word) : Prop extends Joined w where
  ne_nil : w ≠ []

instance (w : Word) : Decidable w.WellFormed :=
  decidable_of_iff (w.Joined ∧ w ≠ [])
    ⟨fun ⟨hjoined, hne⟩ => ⟨hjoined, hne⟩, fun h => ⟨h.toJoined, h.ne_nil⟩⟩

end Word

/-- A word and the blanks after it. -/
abbrev Spaced := Word × List Char

/-- A word is followed by blanks, and by none if it is still open. -/
structure Spaced.WellFormed (p : Spaced) : Prop where
  word : Word.WellFormed p.1
  blank : ∀ c ∈ p.2, Text.isBlank c = true
  ends : Word.isClosed p.1 = false → p.2 = []

instance (p : Spaced) : Decidable p.WellFormed :=
  decidable_of_iff (Word.WellFormed p.1 ∧ p.2.all Text.isBlank = true ∧
      (Word.isClosed p.1 = false → p.2 = []))
    ⟨fun ⟨hword, hblank, hends⟩ => ⟨hword, List.all_eq_true.1 hblank, hends⟩,
      fun h => ⟨h.word, List.all_eq_true.2 h.blank, h.ends⟩⟩

/-- Words and the blanks after them, as they stand in a line. -/
def spellAll (words : List Spaced) : List Char :=
  words.flatMap fun (w, gap) => Word.spelling w ++ gap

/-- Words are spelled one after the other. -/
@[simp] lemma spellAll_cons (w : Word) (gap : List Char) (words : List Spaced) :
    spellAll ((w, gap) :: words) = w.spelling ++ (gap ++ spellAll words) := by
  rw [spellAll, List.flatMap_cons, List.append_assoc]
  rfl

/-- Words of which each but the last has at least one blank after it. -/
structure Apart (words : List Spaced) : Prop where
  spaced : ∀ p ∈ words, p.WellFormed
  apart : words.IsChain fun p _ => p.2 ≠ []

instance (words : List Spaced) : Decidable (Apart words) :=
  decidable_of_iff ((∀ p ∈ words, p.WellFormed) ∧ words.IsChain fun p _ => p.2 ≠ [])
    ⟨fun ⟨hspaced, hapart⟩ => ⟨hspaced, hapart⟩, fun h => ⟨h.spaced, h.apart⟩⟩

/-- A line taken apart: blanks, and then words with the blanks after each. -/
structure Layout where
  indent : List Char
  words : List Spaced
  deriving DecidableEq, Repr

namespace Layout

/-- The line that a layout takes apart. -/
def spelling (l : Layout) : List Char :=
  l.indent ++ spellAll l.words

/-- The tokens that the words of a layout spell. -/
def tokens (l : Layout) : List Token :=
  l.words.map fun (w, _) => Word.token w

/-- The tokens of a layout are those of its words. -/
lemma tokens_eq (l : Layout) : l.tokens = (l.words.map Prod.fst).map Word.token := by
  rw [List.map_map]
  rfl

/-- A layout begins with blanks, which may be none. -/
structure WellFormed (l : Layout) : Prop extends Apart l.words where
  indent_blank : ∀ c ∈ l.indent, Text.isBlank c = true

instance (l : Layout) : Decidable l.WellFormed :=
  decidable_of_iff (Apart l.words ∧ l.indent.all Text.isBlank = true)
    ⟨fun ⟨hapart, hindent⟩ => ⟨hapart, List.all_eq_true.1 hindent⟩,
      fun h => ⟨h.toApart, List.all_eq_true.2 h.indent_blank⟩⟩

end Layout

/-! ## Beginnings -/

/-- Quotes are no blanks. -/
lemma isBlank_of_isQuote {c : Char} (h : isQuote c = true) : Text.isBlank c = false := by
  simp only [isQuote, Bool.or_eq_true, beq_iff_eq] at h
  rcases h with rfl | rfl <;> decide

/-- Blanks are no quotes. -/
lemma isQuote_of_isBlank {c : Char} (h : Text.isBlank c = true) : isQuote c = false := by
  by_contra hquote
  rw [isBlank_of_isQuote (by simpa using hquote)] at h
  exact nomatch h

/-- Plain characters are no blanks. -/
lemma isBlank_of_isPlain {c : Char} (h : isPlain c = true) : Text.isBlank c = false := by
  simp only [isPlain, Bool.and_eq_true, Bool.not_eq_true'] at h
  exact h.2

/-- Plain characters are no quotes. -/
lemma isQuote_of_isPlain {c : Char} (h : isPlain c = true) : isQuote c = false := by
  simp only [isPlain, Bool.and_eq_true, Bool.not_eq_true'] at h
  exact h.1

/-- A segment begins with a quote if it is a span, else with a plain character. -/
lemma Segment.WellFormed.head {s : Segment} (h : s.WellFormed) :
    ∃ c cs, s.spelling = c :: cs ∧ isQuote c = s.isQuoted ∧ Text.isBlank c = false := by
  rcases s with (_ | ⟨c, cs⟩) | ⟨mark, cs, closed⟩
  · exact absurd rfl h.1
  · have hc : isPlain c = true := h.2 c List.mem_cons_self
    exact ⟨c, cs, rfl, isQuote_of_isPlain hc, isBlank_of_isPlain hc⟩
  · exact ⟨mark, _, rfl, h.1, isBlank_of_isQuote h.1⟩

/-- Joined segments without the first one are joined. -/
lemma Word.Joined.tail {s : Segment} {w : Word} (h : Word.Joined (s :: w)) : Word.Joined w :=
  ⟨fun t ht => h.segments t (List.mem_cons_of_mem _ ht), h.touching.tail⟩

/-- After an open segment nothing comes in its word. -/
lemma Word.Joined.eq_nil {s : Segment} {w : Word} (h : Word.Joined (s :: w))
    (hopen : s.isClosed = false) : w = [] := by
  cases w with
  | nil => rfl
  | cons t w =>
    have htouch := (List.isChain_cons_cons.1 h.touching).1
    rw [htouch.1] at hopen
    exact nomatch hopen

/-- Words without the first one keep apart. -/
lemma Apart.tail {p : Spaced} {words : List Spaced} (h : Apart (p :: words)) : Apart words :=
  ⟨fun q hq => h.spaced q (List.mem_cons_of_mem _ hq), h.apart.tail⟩

/-- After a word without blanks nothing comes in its line. -/
lemma Apart.eq_nil {p : Spaced} {words : List Spaced} (h : Apart (p :: words)) (hgap : p.2 = []) :
    words = [] := by
  cases words with
  | nil => rfl
  | cons q words => exact absurd hgap (List.isChain_cons_cons.1 h.apart).1

/-- Words that keep apart begin with no blank. -/
lemma Apart.head {words : List Spaced} (h : Apart words) :
    ∀ c ∈ (spellAll words).head?, Text.isBlank c = false := by
  rcases words with _ | ⟨⟨_ | ⟨s, w⟩, gap⟩, words⟩
  · simp [spellAll]
  · exact absurd rfl (h.spaced _ List.mem_cons_self).word.ne_nil
  · have hs := (h.spaced _ List.mem_cons_self).word.segments s List.mem_cons_self
    obtain ⟨c, cs, hspelling, -, hblank⟩ := hs.head
    simp [hspelling, hblank]

/-- Words are not spelled by nothing. -/
lemma Apart.spellAll_ne_nil {p : Spaced} {words : List Spaced} (h : Apart (p :: words)) :
    spellAll (p :: words) ≠ [] := by
  obtain ⟨_ | ⟨s, w⟩, gap⟩ := p
  · exact absurd rfl (h.spaced _ List.mem_cons_self).word.ne_nil
  · obtain ⟨c, cs, hspelling, -, -⟩ :=
      ((h.spaced _ List.mem_cons_self).word.segments s List.mem_cons_self).head
    simp [hspelling]

/-! ## The tokens of a layout -/

/-- A run of plain characters is added to the token. -/
lemma splitFrom_run {run : List Char} (h : ∀ c ∈ run, isPlain c = true) (quoted : Bool)
    (sofar rest : List Char) :
    splitFrom (.plain quoted sofar) (run ++ rest) =
      splitFrom (.plain quoted (run.reverse ++ sofar)) rest := by
  induction run generalizing sofar with
  | nil => rfl
  | cons c run ih =>
    have hc : isPlain c = true := h c List.mem_cons_self
    rw [List.cons_append, splitFrom, isQuote_of_isPlain hc, isBlank_of_isPlain hc]
    simp [ih fun d hd => h d (List.mem_cons_of_mem _ hd)]

/-- What stands in a span is added to the token. -/
lemma splitFrom_span {mark : Char} {run : List Char} (h : mark ∉ run) (quoted : Bool)
    (sofar rest : List Char) :
    splitFrom (.span mark quoted sofar) (run ++ rest) =
      splitFrom (.span mark quoted (run.reverse ++ sofar)) rest := by
  induction run generalizing sofar with
  | nil => rfl
  | cons c run ih =>
    obtain ⟨hc, hrun⟩ : mark ≠ c ∧ mark ∉ run := by simpa using h
    rw [List.cons_append, splitFrom, if_neg (Ne.symm hc), ih hrun]
    simp

/-- A segment within a token adds what it stands for. -/
lemma splitFrom_segment {s : Segment} (h : s.WellFormed) (quoted : Bool) (sofar : List Char)
    {rest : List Char} (hopen : s.isClosed = false → rest = []) :
    splitFrom (.plain quoted sofar) (s.spelling ++ rest) =
      splitFrom (.plain quoted (s.content.reverse ++ sofar)) rest := by
  rcases s with cs | ⟨mark, cs, closed⟩
  · exact splitFrom_run h.2 quoted sofar rest
  · have hspan : splitFrom (.plain quoted sofar) ((Segment.quoted mark cs closed).spelling ++ rest) =
        splitFrom (.span mark quoted sofar) (cs ++ ((if closed then [mark] else []) ++ rest)) := by
      rw [Segment.spelling, List.cons_append, List.cons_append, List.append_assoc, splitFrom,
        if_pos h.1]
    rw [hspan, splitFrom_span h.2]
    cases closed with
    | true => exact if_pos rfl
    | false =>
      -- the end of the line closes the span
      rw [hopen rfl]
      rfl

/-- The segments of a word, one by one. -/
lemma splitFrom_joined {w : Word} (h : w.Joined) (quoted : Bool) (sofar : List Char)
    {rest : List Char} (hopen : w.isClosed = false → rest = []) :
    splitFrom (.plain quoted sofar) (w.spelling ++ rest) =
      splitFrom (.plain quoted (w.content.reverse ++ sofar)) rest := by
  induction w generalizing sofar with
  | nil => rfl
  | cons s w ih =>
    have hs : s.isClosed = false → Word.spelling w ++ rest = [] := by
      intro hclosed
      rw [h.eq_nil hclosed, hopen (by simp [hclosed])]
      rfl
    have hw : Word.isClosed w = false → rest = [] := fun hclosed => hopen (by simp [hclosed])
    calc splitFrom (.plain quoted sofar) (Word.spelling (s :: w) ++ rest)
        = splitFrom (.plain quoted sofar) (s.spelling ++ (Word.spelling w ++ rest)) := by
          rw [Word.spelling_cons, List.append_assoc]
      _ = splitFrom (.plain quoted (s.content.reverse ++ sofar)) (Word.spelling w ++ rest) :=
          splitFrom_segment (h.segments s List.mem_cons_self) quoted sofar hs
      _ = splitFrom (.plain quoted ((Word.content w).reverse ++ (s.content.reverse ++ sofar))) rest :=
          ih h.tail _ hw
      _ = splitFrom (.plain quoted ((Word.content (s :: w)).reverse ++ sofar)) rest := by
          simp

/-- A token begins with a character that is no blank, and it is positional if that is a quote. -/
lemma splitFrom_between {c : Char} (h : Text.isBlank c = false) (cs : List Char) :
    splitFrom .between (c :: cs) = splitFrom (.plain (isQuote c) []) (c :: cs) := by
  cases hquote : isQuote c <;> simp [splitFrom, hquote, h]

/-- Blanks between tokens are passed over. -/
lemma splitFrom_blanks {gap : List Char} (h : ∀ c ∈ gap, Text.isBlank c = true)
    (rest : List Char) : splitFrom .between (gap ++ rest) = splitFrom .between rest := by
  induction gap with
  | nil => rfl
  | cons c gap ih =>
    have hc : Text.isBlank c = true := h c List.mem_cons_self
    rw [List.cons_append, splitFrom, isQuote_of_isBlank hc, hc]
    exact ih fun d hd => h d (List.mem_cons_of_mem _ hd)

/-- A token ends with the blanks after it, or with the line. -/
lemma splitFrom_gap {gap rest : List Char} (h : ∀ c ∈ gap, Text.isBlank c = true)
    (hends : gap = [] → rest = []) (quoted : Bool) (sofar : List Char) :
    splitFrom (.plain quoted sofar) (gap ++ rest) =
      ⟨sofar.reverse, quoted⟩ :: splitFrom .between rest := by
  cases gap with
  | nil =>
    rw [hends rfl]
    rfl
  | cons c gap =>
    have hc : Text.isBlank c = true := h c List.mem_cons_self
    have hgap : ∀ d ∈ gap, Text.isBlank d = true := fun d hd => h d (List.mem_cons_of_mem _ hd)
    rw [List.cons_append, splitFrom, isQuote_of_isBlank hc, hc,
      splitFrom_blanks hgap]
    rfl

/-- The token of a word comes before those of the rest of the line. -/
lemma splitFrom_word {w : Word} {gap rest : List Char} (h : Spaced.WellFormed (w, gap))
    (hends : gap = [] → rest = []) :
    splitFrom .between (w.spelling ++ (gap ++ rest)) = w.token :: splitFrom .between rest := by
  have hopen : Word.isClosed w = false → gap ++ rest = [] := by
    intro hclosed
    have hgap : gap = [] := h.ends hclosed
    rw [hgap, hends hgap]
    rfl
  have hbegin : splitFrom .between (w.spelling ++ (gap ++ rest)) =
      splitFrom (.plain w.isQuoted []) (w.spelling ++ (gap ++ rest)) := by
    rcases w with _ | ⟨s, w⟩
    · exact absurd rfl h.word.ne_nil
    · obtain ⟨c, cs, hspelling, hquote, hblank⟩ := (h.word.segments s List.mem_cons_self).head
      simp only [Word.spelling_cons, hspelling, List.cons_append, Word.isQuoted,
        List.head?_cons, Option.any_some, ← hquote]
      exact splitFrom_between hblank _
  rw [hbegin, splitFrom_joined h.word.toJoined _ _ hopen, splitFrom_gap h.blank hends]
  simp [Word.token]

/-- The tokens of words that keep apart. -/
lemma splitFrom_spellAll {words : List Spaced} (h : Apart words) :
    splitFrom .between (spellAll words) = words.map fun (w, _) => Word.token w := by
  induction words with
  | nil => rfl
  | cons p words ih =>
    obtain ⟨w, gap⟩ := p
    have hends : gap = [] → spellAll words = [] := by
      intro hgap
      rw [h.eq_nil hgap]
      rfl
    rw [spellAll_cons, splitFrom_word (h.spaced _ List.mem_cons_self) hends, ih h.tail]
    rfl

/-- **The tokens of a line are those of its layout.** -/
theorem split_spelling {l : Layout} (h : l.WellFormed) : split l.spelling = l.tokens := by
  rw [split, Layout.spelling, splitFrom_blanks h.indent_blank, splitFrom_spellAll h.toApart]
  rfl

/-! ## One layout at most -/

/-- A text begins in one way with a segment, if after a run it goes on with no plain character and
after an open span it ends. -/
lemma Segment.spelling_unique {s s' : Segment} {rest rest' : List Char} (hs : s.WellFormed)
    (hs' : s'.WellFormed)
    (hplain : s.isQuoted = false → ∀ c ∈ rest.head?, isPlain c = false)
    (hplain' : s'.isQuoted = false → ∀ c ∈ rest'.head?, isPlain c = false)
    (hopen : s.isClosed = false → rest = []) (hopen' : s'.isClosed = false → rest' = [])
    (h : s.spelling ++ rest = s'.spelling ++ rest') : s = s' ∧ rest = rest' := by
  obtain ⟨c, cs, hspelling, hquote, -⟩ := hs.head
  obtain ⟨c', cs', hspelling', hquote', -⟩ := hs'.head
  have hsame : s.isQuoted = s'.isQuoted := by
    rw [hspelling, hspelling', List.cons_append, List.cons_append] at h
    rw [← hquote, ← hquote', (List.cons.inj h).1]
  rcases s with run | ⟨mark, run, closed⟩ <;> rcases s' with run' | ⟨mark', run', closed'⟩
  · obtain ⟨rfl, rfl⟩ := Chars.run_unique hs.2 hs'.2 (hplain rfl) (hplain' rfl) h
    exact ⟨rfl, rfl⟩
  · exact nomatch hsame
  · exact nomatch hsame
  · simp only [spelling, List.cons_append, List.append_assoc, List.cons.injEq] at h
    obtain ⟨rfl, h⟩ := h
    have hinside : ∀ {run : List Char}, mark ∉ run → ∀ c ∈ run, (c != mark) = true := by
      intro run hmark c hc
      simp only [bne_iff_ne, ne_eq]
      rintro rfl
      exact hmark hc
    have hclose : ∀ {closed : Bool} {rest : List Char}, (closed = false → rest = []) →
        ∀ c ∈ ((if closed then [mark] else []) ++ rest).head?, (c != mark) = false := by
      intro closed rest hrest c hc
      cases closed with
      | true => simpa using hc.symm
      | false => rw [hrest rfl] at hc; exact nomatch hc
    obtain ⟨rfl, h⟩ :=
      Chars.run_unique (hinside hs.2) (hinside hs'.2) (hclose hopen) (hclose hopen') h
    cases closed with
    | true =>
      cases closed' with
      | true => exact ⟨rfl, by simpa using h⟩
      | false => rw [hopen' rfl] at h; exact nomatch h
    | false =>
      rw [hopen rfl] at h ⊢
      cases closed' with
      | true => exact nomatch h
      | false => exact ⟨rfl, h⟩

/-- After the first segment of a word, what follows is as that segment demands. -/
lemma Word.Joined.after {s : Segment} {w : Word} {rest : List Char} (h : Word.Joined (s :: w))
    (hrest : ∀ c ∈ rest.head?, Text.isBlank c = true)
    (hopen : Word.isClosed (s :: w) = false → rest = []) :
    (s.isQuoted = false → ∀ c ∈ (w.spelling ++ rest).head?, isPlain c = false) ∧
      (s.isClosed = false → w.spelling ++ rest = []) := by
  constructor
  · intro hs c hc
    cases w with
    | nil => simp [isPlain, hrest c hc]
    | cons t w =>
      obtain ⟨d, ds, hspelling, hquote, -⟩ := (h.segments t (by simp)).head
      have ht : t.isQuoted = true := by
        simpa [hs] using (List.isChain_cons_cons.1 h.touching).1.2
      simp only [spelling_cons, hspelling, List.cons_append, List.head?_cons,
        Option.mem_some] at hc
      simp [isPlain, ← hc, hquote, ht]
  · intro hs
    rw [h.eq_nil hs, hopen (by simp [hs])]
    rfl

/-- A text begins in one way with a word that ends at a blank or with the text. -/
lemma Word.spelling_unique {w w' : Word} {rest rest' : List Char} (hw : w.Joined) (hw' : w'.Joined)
    (hrest : ∀ c ∈ rest.head?, Text.isBlank c = true)
    (hrest' : ∀ c ∈ rest'.head?, Text.isBlank c = true)
    (hopen : w.isClosed = false → rest = []) (hopen' : w'.isClosed = false → rest' = [])
    (h : w.spelling ++ rest = w'.spelling ++ rest') : w = w' ∧ rest = rest' := by
  have hempty : ∀ {s : Segment} {w : Word} {rest rest' : List Char}, Word.Joined (s :: w) →
      (∀ c ∈ rest.head?, Text.isBlank c = true) → rest ≠ Word.spelling (s :: w) ++ rest' := by
    intro s w rest rest' hw hrest h
    obtain ⟨c, cs, hspelling, -, hblank⟩ := (hw.segments s List.mem_cons_self).head
    have hc : Text.isBlank c = true := by
      apply hrest
      simp [h, hspelling]
    rw [hblank] at hc
    exact nomatch hc
  induction w generalizing w' with
  | nil =>
    cases w' with
    | nil => exact ⟨rfl, h⟩
    | cons s' w' => exact absurd h (hempty hw' hrest)
  | cons s w ih =>
    cases w' with
    | nil => exact absurd h.symm (hempty hw hrest')
    | cons s' w' =>
      obtain ⟨hplain, hends⟩ := hw.after hrest hopen
      obtain ⟨hplain', hends'⟩ := hw'.after hrest' hopen'
      have hsplit : s.spelling ++ (spelling w ++ rest) = s'.spelling ++ (spelling w' ++ rest') := by
        simpa using h
      obtain ⟨rfl, hrests⟩ := Segment.spelling_unique (hw.segments s List.mem_cons_self)
        (hw'.segments s' List.mem_cons_self) hplain hplain' hends hends' hsplit
      obtain ⟨rfl, hsame⟩ := ih hw.tail hw'.tail (fun hclosed => hopen (by simp [hclosed]))
        (fun hclosed => hopen' (by simp [hclosed])) hrests
      exact ⟨rfl, hsame⟩

/-- What follows a word in a line begins with a blank, and nothing follows an open word. -/
lemma Apart.after {w : Word} {gap : List Char} {words : List Spaced}
    (h : Apart ((w, gap) :: words)) :
    (∀ c ∈ (gap ++ spellAll words).head?, Text.isBlank c = true) ∧
      (w.isClosed = false → gap ++ spellAll words = []) := by
  have hgap := (h.spaced _ List.mem_cons_self).blank
  constructor
  · intro c hc
    cases gap with
    | nil =>
      rw [h.eq_nil rfl] at hc
      exact nomatch hc
    | cons d gap =>
      obtain rfl : d = c := by simpa using hc
      exact hgap d List.mem_cons_self
  · intro hclosed
    have hnil : gap = [] := (h.spaced _ List.mem_cons_self).ends hclosed
    rw [hnil, h.eq_nil hnil]
    rfl

/-- Words that keep apart are told from their spelling. -/
lemma Apart.unique {words words' : List Spaced} (hw : Apart words) (hw' : Apart words')
    (h : spellAll words = spellAll words') : words = words' := by
  induction words generalizing words' with
  | nil =>
    cases words' with
    | nil => rfl
    | cons p' words' => exact absurd h.symm hw'.spellAll_ne_nil
  | cons p words ih =>
    cases words' with
    | nil => exact absurd h hw.spellAll_ne_nil
    | cons p' words' =>
      obtain ⟨w, gap⟩ := p
      obtain ⟨w', gap'⟩ := p'
      obtain ⟨hrest, hopen⟩ := hw.after
      obtain ⟨hrest', hopen'⟩ := hw'.after
      have hsplit : Word.spelling w ++ (gap ++ spellAll words) =
          Word.spelling w' ++ (gap' ++ spellAll words') := by
        simpa using h
      obtain ⟨rfl, hrests⟩ := Word.spelling_unique
        (hw.spaced _ List.mem_cons_self).word.toJoined
        (hw'.spaced _ List.mem_cons_self).word.toJoined hrest hrest' hopen hopen' hsplit
      obtain ⟨rfl, hwords⟩ := Chars.run_unique (hw.spaced _ List.mem_cons_self).blank
        (hw'.spaced _ List.mem_cons_self).blank hw.tail.head hw'.tail.head hrests
      rw [ih hw.tail hw'.tail hwords]

/-- **A line has at most one layout.** -/
theorem Layout.WellFormed.unique {l l' : Layout} (hl : l.WellFormed) (hl' : l'.WellFormed)
    (h : l.spelling = l'.spelling) : l = l' := by
  obtain ⟨indent, words⟩ := l
  obtain ⟨indent', words'⟩ := l'
  obtain ⟨hindent, hspelling⟩ :=
    Chars.run_unique hl.indent_blank hl'.indent_blank hl.toApart.head hl'.toApart.head h
  have hwords : words = words' := hl.toApart.unique hl'.toApart hspelling
  exact congrArg₂ Layout.mk hindent hwords

/-! ## A layout for every line -/

/-- A layout with a segment put before it: it joins the first word, unless blanks come first. -/
def Layout.extend (s : Segment) : Layout → Layout
  | ⟨[], (w, gap) :: words⟩ => ⟨[], (s :: w, gap) :: words⟩
  | ⟨indent, words⟩ => ⟨[], ([s], indent) :: words⟩

/-- The segment stands before the line. -/
lemma Layout.spelling_extend (s : Segment) (l : Layout) :
    (l.extend s).spelling = s.spelling ++ l.spelling := by
  unfold extend
  split <;> simp [spelling, spellAll, Word.spelling]

/-- A closed word may stand before a line that begins with a blank or is blank itself. -/
lemma Layout.WellFormed.cons {w : Word} {l : Layout} (h : l.WellFormed) (hw : w.WellFormed)
    (hclosed : w.isClosed = true) (hgap : l.indent = [] → l.words = []) :
    WellFormed ⟨[], (w, l.indent) :: l.words⟩ := by
  have hword : Spaced.WellFormed (w, l.indent) := by
    refine ⟨hw, h.indent_blank, fun hopen => ?_⟩
    rw [hclosed] at hopen
    exact nomatch hopen
  refine ⟨⟨List.forall_mem_cons.2 ⟨hword, h.spaced⟩, List.isChain_cons.2 ⟨?_, h.apart⟩⟩,
    List.forall_mem_nil _⟩
  intro p hp hnil
  rw [hgap hnil] at hp
  exact nomatch hp

/-- A closed segment may stand before a line, a plain run only before one that begins with no plain
character. -/
lemma Layout.WellFormed.extend {s : Segment} {l : Layout} (h : l.WellFormed) (hs : s.WellFormed)
    (hclosed : s.isClosed = true)
    (hplain : s.isQuoted = false → ∀ c ∈ l.spelling.head?, isPlain c = false) :
    (l.extend s).WellFormed := by
  unfold Layout.extend
  split
  · next w gap words =>
    have hw := h.spaced _ List.mem_cons_self
    have htouch : ∀ t ∈ w.head?, s.MayTouch t := by
      intro t ht
      refine ⟨hclosed, ?_⟩
      obtain ⟨c, cs, hspelling, hquote, hblank⟩ :=
        (hw.word.segments t (List.mem_of_mem_head? ht)).head
      obtain ⟨w', rfl⟩ := List.head?_eq_some_iff.1 ht
      by_contra hneither
      simp only [not_or, Bool.not_eq_true] at hneither
      have hc := hplain hneither.1 c (by simp [spelling, hspelling])
      simp [isPlain, hquote, hneither.2, hblank] at hc
    have hword : Spaced.WellFormed (s :: w, gap) := by
      refine ⟨⟨⟨?_, List.isChain_cons.2 ⟨htouch, hw.word.touching⟩⟩, List.cons_ne_nil _ _⟩,
        hw.blank, fun hopen => hw.ends ?_⟩
      · exact List.forall_mem_cons.2 ⟨hs, hw.word.segments⟩
      · simpa [hclosed] using hopen
    exact ⟨⟨List.forall_mem_cons.2 ⟨hword, h.toApart.tail.spaced⟩,
      List.isChain_cons.2 ⟨(List.isChain_cons.1 h.apart).1, h.toApart.tail.apart⟩⟩,
      h.indent_blank⟩
  · next indent words hindent =>
    have hword : Word.WellFormed [s] :=
      ⟨⟨by simpa using hs, List.isChain_singleton _⟩, List.cons_ne_nil _ _⟩
    refine h.cons hword (by simp [Word.isClosed, hclosed]) fun hnil => ?_
    rcases words with _ | ⟨⟨w, gap⟩, words⟩
    · rfl
    · exact (hindent w gap words hnil rfl).elim

/-- A line that is a span without its second mark. -/
lemma Layout.wellFormed_open {mark : Char} {run : List Char} (hmark : isQuote mark = true)
    (hrun : mark ∉ run) : WellFormed ⟨[], [([.quoted mark run false], [])]⟩ := by
  refine ⟨⟨?_, List.isChain_singleton _⟩, List.forall_mem_nil _⟩
  rintro p hp
  rw [List.mem_singleton.1 hp]
  refine ⟨⟨⟨?_, List.isChain_singleton _⟩, List.cons_ne_nil _ _⟩, List.forall_mem_nil _,
    fun _ => rfl⟩
  intro s hs
  rw [List.mem_singleton.1 hs]
  exact ⟨hmark, hrun⟩

/-- **A line has a layout.**

**Proof sketch.** Induction on the length of the line. Blanks at the front belong to the indent. A
plain character begins the longest run of them, which is put before the layout of the rest. A quote
begins a span: up to the next quote of its kind, after which the rest has a layout, or else up to the
end. -/
theorem exists_layout (line : List Char) : ∃ l : Layout, l.WellFormed ∧ l.spelling = line := by
  induction hn : line.length using Nat.strong_induction_on generalizing line with
  | _ n ih =>
    rcases line with _ | ⟨c, cs⟩
    · exact ⟨⟨[], []⟩, ⟨⟨List.forall_mem_nil _, .nil⟩, List.forall_mem_nil _⟩, rfl⟩
    rw [List.length_cons] at hn
    by_cases hblank : Text.isBlank c = true
    · obtain ⟨l, hl, hcs⟩ := ih cs.length (by omega) cs rfl
      refine ⟨⟨c :: l.indent, l.words⟩, ⟨hl.toApart, ?_⟩, ?_⟩
      · exact List.forall_mem_cons.2 ⟨hblank, hl.indent_blank⟩
      · rw [← hcs]
        rfl
    by_cases hquote : isQuote c = true
    · by_cases hmem : c ∈ cs
      · obtain ⟨run, rest, rfl, hrun⟩ := List.eq_append_cons_of_mem hmem
        rw [List.length_append, List.length_cons] at hn
        obtain ⟨l, hl, hrest⟩ := ih rest.length (by omega) rest rfl
        refine ⟨l.extend (.quoted c run true), hl.extend ⟨hquote, hrun⟩ rfl nofun, ?_⟩
        rw [Layout.spelling_extend, hrest]
        simp [Segment.spelling]
      · refine ⟨_, Layout.wellFormed_open hquote hmem, ?_⟩
        simp [Layout.spelling, spellAll, Word.spelling, Segment.spelling]
    · have hc : isPlain c = true := by simp [isPlain, hquote, hblank]
      have hlength := (List.dropWhile_sublist (l := cs) isPlain).length_le
      obtain ⟨l, hl, hrest⟩ := ih (cs.dropWhile isPlain).length (by omega) _ rfl
      have hrun : (Segment.plain (c :: cs.takeWhile isPlain)).WellFormed :=
        ⟨List.cons_ne_nil _ _, List.forall_mem_cons.2 ⟨hc, fun _ => List.mem_takeWhile_imp⟩⟩
      refine ⟨l.extend _, hl.extend hrun rfl fun _ d hd => ?_, ?_⟩
      · rw [hrest] at hd
        have hnot := List.head?_dropWhile_not isPlain cs
        rw [Option.mem_def.1 hd] at hnot
        exact hnot
      · rw [Layout.spelling_extend, hrest]
        simp [Segment.spelling]

/-! ## Trimmed lines -/

/-- Without the blanks at its end, a text that ends in no blank is left. -/
lemma dropEnd_of_getLast {cs gap : List Char} (hlast : ∀ c ∈ cs.getLast?, Text.isBlank c = false)
    (hgap : ∀ c ∈ gap, Text.isBlank c = true) : Chars.dropEnd Text.isBlank (cs ++ gap) = cs := by
  have hdrop : (gap.reverse ++ cs.reverse).dropWhile Text.isBlank = cs.reverse :=
    (Chars.takeWhile_run (by simpa using hgap) (by simpa using hlast)).2
  rw [Chars.dropEnd, List.reverse_append, hdrop, List.reverse_reverse]

/-- The blanks at the end of a text are those at the end of its second part, if that part is more
than blanks. -/
lemma dropEnd_append {cs rest : List Char} (h : Chars.dropEnd Text.isBlank rest ≠ []) :
    Chars.dropEnd Text.isBlank (cs ++ rest) = cs ++ Chars.dropEnd Text.isBlank rest := by
  have hrest : (rest.reverse.dropWhile Text.isBlank).isEmpty = false := by
    simpa [Chars.dropEnd] using h
  rw [Chars.dropEnd, List.reverse_append, List.dropWhile_append, hrest]
  simp [Chars.dropEnd]

/-- A closed segment does not end in a blank. -/
lemma Segment.WellFormed.last {s : Segment} (h : s.WellFormed) (hclosed : s.isClosed = true) :
    s.spelling ≠ [] ∧ ∀ c ∈ s.spelling.getLast?, Text.isBlank c = false := by
  obtain ⟨c, cs, hspelling, -⟩ := h.head
  refine ⟨by simp [hspelling], fun c hc => ?_⟩
  rcases s with run | ⟨mark, run, closed⟩
  · exact isBlank_of_isPlain (h.2 c (List.mem_of_mem_getLast? hc))
  · obtain rfl : closed = true := hclosed
    rw [Segment.spelling, if_pos rfl, List.getLast?_concat] at hc
    obtain rfl : mark = c := by simpa using hc
    exact isBlank_of_isQuote h.1

/-- A closed word does not end in a blank. -/
lemma Word.Joined.last {w : Word} (h : w.Joined) (hclosed : w.isClosed = true) :
    ∀ c ∈ w.spelling.getLast?, Text.isBlank c = false := by
  induction w with
  | nil => exact nofun
  | cons s w ih =>
    rw [isClosed_cons, Bool.and_eq_true] at hclosed
    obtain ⟨hne, hlast⟩ := (h.segments s List.mem_cons_self).last hclosed.1
    intro c hc
    rw [spelling_cons, List.getLast?_append, Option.mem_def, Option.or_eq_some_iff] at hc
    rcases hc with hc | ⟨-, hc⟩
    · exact ih h.tail hclosed.2 c hc
    · exact hlast c hc

/-- Without the blanks at their end, closed words are the same words. -/
lemma Apart.dropEnd {words : List Spaced} (h : Apart words)
    (hclosed : ∀ p ∈ words, Word.isClosed p.1 = true) :
    ∃ words', Apart words' ∧ words'.map Prod.fst = words.map Prod.fst ∧
      spellAll words' = Chars.dropEnd Text.isBlank (spellAll words) := by
  induction words with
  | nil => exact ⟨[], h, rfl, rfl⟩
  | cons p words ih =>
    obtain ⟨w, gap⟩ := p
    have hw := h.spaced _ List.mem_cons_self
    rw [spellAll_cons]
    rcases words with _ | ⟨q, words⟩
    · refine ⟨[(w, [])], ⟨?_, List.isChain_singleton _⟩, rfl, ?_⟩
      · intro p hp
        rw [List.mem_singleton.1 hp]
        exact ⟨hw.word, List.forall_mem_nil _, fun _ => rfl⟩
      · have hlast := hw.word.last (hclosed _ List.mem_cons_self)
        rw [spellAll_cons, spellAll, List.flatMap_nil, List.append_nil, List.append_nil,
          List.append_nil, dropEnd_of_getLast hlast hw.blank]
    · obtain ⟨words', hwords', hsame, hspelling⟩ :=
        ih h.tail fun p hp => hclosed p (List.mem_cons_of_mem _ hp)
      obtain ⟨p', words', rfl⟩ : ∃ p' tail, words' = p' :: tail :=
        List.exists_cons_of_ne_nil (by rintro rfl; exact nomatch hsame)
      refine ⟨(w, gap) :: p' :: words', ⟨List.forall_mem_cons.2 ⟨hw, hwords'.spaced⟩,
        List.isChain_cons_cons.2 ⟨(List.isChain_cons_cons.1 h.apart).1, hwords'.apart⟩⟩, ?_, ?_⟩
      · rw [List.map_cons, hsame]
        rfl
      · have hne := hwords'.spellAll_ne_nil
        rw [hspelling] at hne
        rw [spellAll_cons, ← List.append_assoc, ← List.append_assoc, dropEnd_append hne, hspelling]

/-- **Trimming a line whose words are all closed leaves its words.** The blanks at the end of an open
span belong to its word. -/
theorem Layout.WellFormed.trim {l : Layout} (h : l.WellFormed)
    (hclosed : ∀ p ∈ l.words, Word.isClosed p.1 = true) :
    ∃ l' : Layout, l'.WellFormed ∧ l'.words.map Prod.fst = l.words.map Prod.fst ∧
      l'.spelling = Chars.trim l.spelling := by
  obtain ⟨words, hwords, hsame, hspelling⟩ := h.toApart.dropEnd hclosed
  refine ⟨⟨[], words⟩, ⟨hwords, List.forall_mem_nil _⟩, hsame, ?_⟩
  have hindent : l.spelling.dropWhile Text.isBlank = spellAll l.words :=
    (Chars.takeWhile_run h.indent_blank h.toApart.head).2
  rw [Chars.trim, hindent, ← hspelling]
  rfl

end Token

end TaskShell
