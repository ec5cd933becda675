import TaskShell.Proofs.Command.Titles

/-!
# Letter case of verbs and entities

The first two words of a line may be typed in any letter case: whatever stands for the line, the
command is the same, but for the line that it keeps. Aliases are looked up by the whole line in lower
case, shortcuts read their words without regard to letter case, and the verb and the entity of a
command are put in lower case at last. What follows the words is taken as it is throughout. Only a
shortcut for a page of the manual carries one of the words, the topic, into the line that it stands
for, and there it is the second word again.

## Main definitions

* `Text.SameLetters` — words of letters that differ in letter case alone.
* `Command.FirstRecased`, `Command.Recased` — lines that differ in the letter case of their first word,
  or of their first two words.

## Main results

* `Command.Recased.trim` — lines without the blanks around them differ in the same way.
* `Command.Recased.stands` — shortcuts in another letter case stand for the same, or for lines that
  differ in the same way.
* `Command.Recased.ofLine` — such lines spell the same command.
* `Command.parse_recased` — such lines are read as the same command.
-/

set_option autoImplicit false

namespace TaskShell

open Text (isBlank isWord basicLower IsBasicLetter)

/-! ## Words of letters -/

/-- Words of letters from `A` to `Z` that differ in letter case alone. -/
structure Text.SameLetters (w w' : List Char) : Prop where
  ne_nil : w ≠ []
  letters : ∀ c ∈ w, IsBasicLetter c
  fold : w.map basicLower = w'.map basicLower

namespace Text.SameLetters

variable {w w' : List Char}

/-- Either word differs from the other in letter case alone. -/
lemma symm (h : SameLetters w w') : SameLetters w' w := by
  refine ⟨?_, Text.forall_of_fold isBasicLetter_basicLower h.fold h.letters, h.fold.symm⟩
  rintro rfl
  exact h.ne_nil (List.map_eq_nil_iff.1 h.fold)

/-- A word of letters is bare. -/
lemma isBare (h : SameLetters w w') : Command.IsBare (String.ofList w) := by
  have hplain : ∀ c ∈ w, Token.isPlain c = true := fun c hc => (h.letters c hc).spec.2.2.2
  have hkey : ∀ c ∈ w, isKey c = true := fun c hc => (h.letters c hc).spec.2.1
  have hdash : ∀ c ∈ w, c ≠ '-' := fun c hc => (h.letters c hc).spec.2.2.1
  refine Command.isBare_of_not_form (by simpa using h.ne_nil) (by simpa using hplain)
    fun key value => ⟨fun hflag => ?_, fun hpair => ?_⟩
  · -- a flag begins with a dash
    rw [String.toList_ofList] at hflag
    rcases hflag with ⟨body, rfl, -⟩ | ⟨body, rfl, -⟩
    · exact hdash '-' List.mem_cons_self rfl
    · exact hdash '-' List.mem_cons_self rfl
  · -- and a pair has a colon
    rw [String.toList_ofList] at hpair
    obtain ⟨-, -, rfl⟩ := hpair
    exact absurd (hkey ':' (by simp)) (by decide)

/-- No letter is a blank. -/
lemma not_blank (h : SameLetters w w') : ∀ c ∈ w, isBlank c = false :=
  fun c hc => isBlank_of_isWord (h.letters c hc).spec.1

/-- A word of letters is the first token of a text that goes on with a blank, if at all. -/
lemma split_append (h : SameLetters w w') {rest : List Char}
    (hrest : ∀ c ∈ rest.head?, isBlank c = true) :
    Token.split (w ++ rest) = ⟨w, false⟩ :: Token.split rest := by
  have hcomplete := h.isBare.complete
  rw [String.toList_ofList] at hcomplete
  cases rest with
  | nil =>
    have hsplit := Token.split_spellApart hcomplete (List.forall_mem_nil _)
    have hnone : Token.split [] = [] := rfl
    simpa [Token.spellApart, Token.Word.spelling, Token.Segment.spelling, hnone] using hsplit
  | cons c rest =>
    have hc : ∀ d ∈ [c], isBlank d = true := List.forall_mem_singleton.2 (hrest c rfl)
    have hspaced : Token.Spaced.WellFormed ([.plain w], [c]) :=
      ⟨hcomplete.1, hc, fun hopen => absurd (hcomplete.2.symm.trans hopen) (by decide)⟩
    have hword : Token.splitFrom .between (Token.Word.spelling [.plain w] ++ ([c] ++ rest)) =
        Token.Word.token [.plain w] :: Token.splitFrom .between rest :=
      Token.splitFrom_word hspaced fun hgap => absurd hgap (List.cons_ne_nil c [])
    rw [Token.Word.token_plain, ← Token.splitFrom_blanks hc rest] at hword
    simpa [Token.split, Token.Word.spelling, Token.Segment.spelling] using hword

/-- Words that differ in letter case alone are equal in lower case. -/
lemma lower_eq (h : SameLetters w w') : lower (String.ofList w) = lower (String.ofList w') := by
  refine (lower_eq_lower_iff ?_ ?_).2 ?_
  · simpa using fun c hc => (h.letters c hc).isBasic
  · simpa using fun c hc => (h.symm.letters c hc).isBasic
  · simpa [foldBasic_eq] using h.fold

/-- As verbs they are the same. -/
lemma verb_eq (h : SameLetters w w') :
    Vocabulary.verb (String.ofList w) = Vocabulary.verb (String.ofList w') := by
  simp only [Vocabulary.verb, h.lower_eq]

/-- As entities they are the same. -/
lemma entity_eq (h : SameLetters w w') :
    Vocabulary.entity (String.ofList w) = Vocabulary.entity (String.ofList w') := by
  simp only [Vocabulary.entity, h.lower_eq]

end Text.SameLetters

namespace Command

open Text (SameLetters)
open Shortcut (takeWord builtin? Stands isKeyword_congr lookup?_congr map_keyLetter_of_fold)

variable {cs cs' : List Char}

/-! ## Lines in another letter case -/

/-- Texts that differ in the letter case of their first word, and then go on with a blank, if at all. -/
inductive FirstRecased : List Char → List Char → Prop
  | mk {w w' rest : List Char} (word : SameLetters w w')
      (apart : ∀ c ∈ rest.head?, isBlank c = true) : FirstRecased (w ++ rest) (w' ++ rest)

/-- Texts that differ in the letter case of their first word or of their first two words alone. -/
inductive Recased : List Char → List Char → Prop
  | one {cs cs' : List Char} (first : FirstRecased cs cs') : Recased cs cs'
  | two {v v' gap cs cs' : List Char} (verb : SameLetters v v')
      (blank : ∀ c ∈ gap, isBlank c = true) (ne_nil : gap ≠ []) (second : FirstRecased cs cs') :
      Recased (v ++ (gap ++ cs)) (v' ++ (gap ++ cs'))

/-- Either text differs from the other in the case of its first word. -/
lemma FirstRecased.symm (h : FirstRecased cs cs') : FirstRecased cs' cs := by
  obtain ⟨hword, hapart⟩ := h
  exact .mk hword.symm hapart

/-- Either line differs from the other in letter case. -/
lemma Recased.symm (h : Recased cs cs') : Recased cs' cs := by
  cases h with
  | one hfirst => exact .one hfirst.symm
  | two hverb hblank hne hsecond => exact .two hverb.symm hblank hne hsecond.symm

/-- With the first word in lower case the texts are equal. -/
lemma FirstRecased.fold_eq (h : FirstRecased cs cs') : cs.map basicLower = cs'.map basicLower := by
  obtain ⟨hword, -⟩ := h
  simp [hword.fold]

/-- With all letters in lower case the lines are equal. -/
lemma Recased.fold_eq (h : Recased cs cs') : cs.map basicLower = cs'.map basicLower := by
  cases h with
  | one hfirst => exact hfirst.fold_eq
  | two hverb _ _ hsecond => simp [hverb.fold, hsecond.fold_eq]

/-- The lines have the same lower case. -/
lemma Recased.lower_eq (h : Recased cs cs') : Chars.lower cs = Chars.lower cs' := by
  rw [Chars.lower, Chars.lower, ← Chars.lowerFrom_map_basicLower false cs, h.fold_eq,
    Chars.lowerFrom_map_basicLower]

/-! ## Trimmed lines -/

/-- The text begins with a letter. -/
lemma FirstRecased.head (h : FirstRecased cs cs') : ∀ c ∈ cs.head?, isBlank c = false := by
  obtain ⟨hword, -⟩ := h
  exact Chars.forall_head_append hword.ne_nil hword.not_blank _

/-- The text has a first word. -/
lemma FirstRecased.ne_nil (h : FirstRecased cs cs') : cs ≠ [] := by
  obtain ⟨hword, -⟩ := h
  exact List.append_ne_nil_of_left_ne_nil hword.ne_nil _

/-- Texts without the blanks at their ends differ in the same way. -/
lemma FirstRecased.dropEnd (h : FirstRecased cs cs') :
    FirstRecased (Chars.dropEnd isBlank cs) (Chars.dropEnd isBlank cs') := by
  obtain @⟨w, w', rest, hword, hapart⟩ := h
  rw [Chars.dropEnd_append_word hword.not_blank, Chars.dropEnd_append_word hword.symm.not_blank]
  refine .mk hword fun c hc => hapart c ?_
  have hprefix := Chars.dropEnd_begins isBlank rest
  cases hrest : Chars.dropEnd isBlank rest with
  | nil =>
    rw [hrest] at hc
    exact nomatch hc
  | cons d ds =>
    rw [hrest] at hc hprefix
    obtain ⟨tail, rfl⟩ := hprefix
    exact hc

/-- Lines without the blanks around them differ in the same way. -/
theorem Recased.trim (h : Recased cs cs') : Recased (Chars.trim cs) (Chars.trim cs') := by
  have hstart : ∀ {cs : List Char}, (∀ c ∈ cs.head?, isBlank c = false) →
      cs.dropWhile isBlank = cs := fun hhead =>
    (Chars.takeWhile_run (List.forall_mem_nil _) hhead).2
  rw [Chars.trim, Chars.trim]
  cases h with
  | one hfirst =>
    rw [hstart hfirst.head, hstart hfirst.symm.head]
    exact .one hfirst.dropEnd
  | @two v v' gap cs cs' hverb hblank hne hsecond =>
    have hends : ∀ {v cs : List Char}, Chars.dropEnd isBlank cs ≠ [] →
        Chars.dropEnd isBlank (v ++ (gap ++ cs)) = v ++ (gap ++ Chars.dropEnd isBlank cs) := by
      intro v cs hleft
      rw [← List.append_assoc, Token.dropEnd_append hleft, List.append_assoc]
    rw [hstart (Chars.forall_head_append hverb.ne_nil hverb.not_blank _),
      hstart (Chars.forall_head_append hverb.symm.ne_nil hverb.symm.not_blank _),
      hends hsecond.dropEnd.ne_nil, hends hsecond.dropEnd.symm.ne_nil]
    exact .two hverb hblank hne hsecond.dropEnd

/-! ## Shortcuts -/

/-- What is left behind the first word is the same, or it differs in the case of the word that begins
it. -/
def LeftRecased (cs cs' : List Char) : Prop :=
  cs = cs' ∨ FirstRecased cs cs'

/-- The first words of such texts differ in letter case alone, and the same is left behind them. -/
lemma FirstRecased.takeWord (h : FirstRecased cs cs') : ∃ w w' rest, SameLetters w w' ∧
    takeWord cs = (w, rest) ∧ takeWord cs' = (w', rest) := by
  obtain ⟨hword, hapart⟩ := h
  exact ⟨_, _, _, hword, Shortcut.takeWord_of_apart hword.not_blank hapart,
    Shortcut.takeWord_of_apart hword.symm.not_blank hapart⟩

/-- The first words of such lines differ in letter case alone, and so does what begins the rest. -/
lemma Recased.takeWord (h : Recased cs cs') : ∃ v v' rest rest', SameLetters v v' ∧
    LeftRecased rest rest' ∧ takeWord cs = (v, rest) ∧ takeWord cs' = (v', rest') := by
  cases h with
  | one hfirst =>
    obtain ⟨v, v', rest, hword, hcs, hcs'⟩ := hfirst.takeWord
    exact ⟨v, v', rest, rest, hword, .inl rfl, hcs, hcs'⟩
  | @two v v' gap cs cs' hverb hblank hne hsecond =>
    have hapart : ∀ tail, ∀ c ∈ (gap ++ tail).head?, isBlank c = true :=
      Chars.forall_head_append hne hblank
    refine ⟨v, v', cs, cs', hverb, .inr hsecond, ?_, ?_⟩
    · rw [Shortcut.takeWord_of_apart hverb.not_blank (hapart cs),
        (Chars.takeWhile_run hblank hsecond.head).2]
    · rw [Shortcut.takeWord_of_apart hverb.symm.not_blank (hapart cs'),
        (Chars.takeWhile_run hblank hsecond.symm.head).2]

/-- The rests are equal in lower case, and so are their first words, behind which the same is left. -/
lemma LeftRecased.spec (h : LeftRecased cs cs') : cs.map basicLower = cs'.map basicLower ∧
    ∃ w w' rest, w.map basicLower = w'.map basicLower ∧ Shortcut.takeWord cs = (w, rest) ∧
      Shortcut.takeWord cs' = (w', rest) := by
  rcases h with rfl | hfirst
  · exact ⟨rfl, _, _, _, rfl, rfl, rfl⟩
  · obtain ⟨w, w', rest, hword, hcs, hcs'⟩ := hfirst.takeWord
    exact ⟨hfirst.fold_eq, w, w', rest, hword.fold, hcs, hcs'⟩

/-- **Shortcuts in another letter case** stand for the same line, or for lines that differ in letter
case as they do: these open a page of the manual. -/
theorem Recased.stands (h : Recased cs cs') {out : String} (hstands : Stands cs out) :
    ∃ out', Stands cs' out' ∧ (out' = out ∨ Recased out.toList out'.toList) := by
  obtain ⟨v, v', rest, rest', hverb, hleft, hcs, hcs'⟩ := h.takeWord
  obtain ⟨hrest, w, w', last, hsecond, hw, hw'⟩ := hleft.spec
  cases hstands with
  | listing hnamed =>
    rw [lookup?_congr (map_keyLetter_of_fold h.fold_eq)] at hnamed
    exact ⟨_, .listing hnamed, .inl rfl⟩
  | creation hfirst hkind hheads hnamed hgiven honeLine =>
    obtain ⟨rfl, rfl⟩ := Prod.mk.inj (hcs.symm.trans hfirst)
    obtain ⟨rfl, rfl⟩ := Prod.mk.inj (hw.symm.trans hkind)
    rw [isKeyword_congr (map_keyLetter_of_fold hverb.fold)] at hheads
    rw [lookup?_congr (map_keyLetter_of_fold hsecond)] at hnamed
    exact ⟨_, .creation hcs' hw' hheads hnamed hgiven honeLine, .inl rfl⟩
  | progress hfirst hkind hlisted hheads hnamed hgiven hwhole =>
    obtain ⟨rfl, rfl⟩ := Prod.mk.inj (hcs.symm.trans hfirst)
    obtain ⟨rfl, rfl⟩ := Prod.mk.inj (hw.symm.trans hkind)
    rw [isKeyword_congr (map_keyLetter_of_fold hverb.fold)] at hheads
    rw [isKeyword_congr (map_keyLetter_of_fold hsecond)] at hnamed
    exact ⟨_, .progress hcs' hw' hlisted hheads hnamed hgiven hwhole, .inl rfl⟩
  | manual hfirst hheads hnamed =>
    obtain ⟨rfl, rfl⟩ := Prod.mk.inj (hcs.symm.trans hfirst)
    rw [isKeyword_congr (map_keyLetter_of_fold hverb.fold)] at hheads
    rw [isKeyword_congr (map_keyLetter_of_fold hrest)] at hnamed
    exact ⟨_, .manual hcs' hheads hnamed, .inl rfl⟩
  | page hfirst hheads hgiven hwhole =>
    obtain ⟨rfl, rfl⟩ := Prod.mk.inj (hcs.symm.trans hfirst)
    rw [isKeyword_congr (map_keyLetter_of_fold hverb.fold)] at hheads
    have hgiven' : rest' ≠ [] := by
      rintro rfl
      exact hgiven (List.map_eq_nil_iff.1 hrest)
    refine ⟨_, .page hcs' hheads hgiven' (Text.forall_of_fold (P := fun c => isWord c = true)
      (by simp) hrest hwhole), ?_⟩
    rcases hleft with rfl | hfirst
    · exact .inl rfl
    · -- the topic is the second word again
      have hman : SameLetters "man".toList "man".toList :=
        ⟨by decide, by decide, rfl⟩
      have hline : ∀ topic : List Char, (Shortcut.pageLine (String.ofList topic)).toList =
          "man".toList ++ ([' '] ++ topic) := fun topic => by simp [Shortcut.pageLine]
      rw [hline, hline]
      exact .inr (.two hman (by decide) (by decide) hfirst)

/-! ## The commands that are spelled -/

/-- The tokens of a text begin with its first word, and the same follow. -/
lemma FirstRecased.split (h : FirstRecased cs cs') : ∃ w w' tokens, SameLetters w w' ∧
    Token.split cs = ⟨w, false⟩ :: tokens ∧ Token.split cs' = ⟨w', false⟩ :: tokens := by
  obtain @⟨w, w', rest, hword, hapart⟩ := h
  exact ⟨w, w', _, hword, hword.split_append hapart, hword.symm.split_append hapart⟩

/-- The tokens of a line begin with its first word. Behind it the same follow, or those of texts that
differ in their first words. -/
lemma Recased.split (h : Recased cs cs') : ∃ v v' rest rest', SameLetters v v' ∧
    LeftRecased rest rest' ∧ Token.split cs = ⟨v, false⟩ :: Token.split rest ∧
    Token.split cs' = ⟨v', false⟩ :: Token.split rest' := by
  cases h with
  | one hfirst =>
    obtain @⟨v, v', rest, hword, hapart⟩ := hfirst
    exact ⟨v, v', rest, rest, hword, .inl rfl, hword.split_append hapart,
      hword.symm.split_append hapart⟩
  | @two v v' gap cs cs' hverb hblank hne hsecond =>
    have hsplit : ∀ tail, Token.split (gap ++ tail) = Token.split tail :=
      Token.splitFrom_blanks hblank
    refine ⟨v, v', cs, cs', hverb, .inr hsecond, ?_, ?_⟩
    · rw [hverb.split_append (Chars.forall_head_append hne hblank cs), hsplit]
    · rw [hverb.symm.split_append (Chars.forall_head_append hne hblank cs'), hsplit]

/-- A word of letters is positional. -/
lemma words_cons {w w' : List Char} (h : SameLetters w w') (tokens : List Token) :
    positionals (⟨w, false⟩ :: tokens) = String.ofList w :: positionals tokens ∧
      flagsOf (⟨w, false⟩ :: tokens) = flagsOf tokens := by
  have hrole := h.isBare.positional
  rw [String.toList_ofList] at hrole
  rw [← filterMap_word?, ← filterMap_word?, ← ofPairs_filterMap_setting?,
    ← ofPairs_filterMap_setting?, List.map_cons, hrole]
  exact ⟨rfl, rfl⟩

/-- **Lines in another letter case spell the same command**, once its verb and its entity are put in
canonical form.

**Proof sketch.** The first tokens are the words that differ, and each of them is positional, so that
they are the verb and the entity. The same tokens follow. -/
theorem Recased.ofLine {line line' : String} (h : Recased line.toList line'.toList) :
    SaysSame (ofLine line).normalize (ofLine line').normalize := by
  obtain ⟨v, v', rest, rest', hverb, hleft, hcs, hcs'⟩ := h.trim.split
  unfold Command.ofLine
  dsimp only
  rw [hcs, hcs']
  obtain ⟨hwords, hflags⟩ := words_cons hverb (Token.split rest)
  obtain ⟨hwords', hflags'⟩ := words_cons hverb.symm (Token.split rest')
  rw [hwords, hwords', hflags, hflags']
  rcases hleft with rfl | hsecond
  · exact ⟨congrArg some hverb.verb_eq, rfl, rfl, rfl⟩
  · obtain ⟨w, w', tokens, hword, htokens, htokens'⟩ := hsecond.split
    rw [htokens, htokens', (words_cons hword tokens).1, (words_cons hword tokens).2,
      (words_cons hword.symm tokens).1, (words_cons hword.symm tokens).2]
    exact ⟨congrArg some hverb.verb_eq, congrArg some hword.entity_eq, rfl, rfl⟩

/-- **Verbs and entities may be typed in any letter case.** Whatever aliases there are, lines that
differ in the letter case of their first word or of their first two words alone are read as commands
with the same verb, entity, target and flags.

**Proof sketch.** Trimmed, the lines have the same lower case, so that the same alias stands for them,
if any. If one is a shortcut, so is the other, and what they stand for is the same or again differs in
letter case alone (`Recased.stands`). What is not expanded spells the same (`Recased.ofLine`). -/
theorem parse_recased (aliases : Entries String) {line line' : String}
    (h : Recased line.toList line'.toList) : SaysSame (parse aliases line) (parse aliases line') := by
  unfold parse Shortcut.expand
  dsimp only
  rw [h.trim.lower_eq]
  split
  · exact ⟨rfl, rfl, rfl, rfl⟩
  · cases hbuiltin : builtin? (Chars.trim line.toList) with
    | some out =>
      obtain ⟨out', hstands, hsame⟩ := h.trim.stands (Shortcut.builtin?_eq_some_iff.1 hbuiltin)
      rw [hstands.builtin?_eq, Option.getD_some, Option.getD_some]
      rcases hsame with rfl | hrecased
      · exact ⟨rfl, rfl, rfl, rfl⟩
      · exact hrecased.ofLine
    | none =>
      cases hbuiltin' : builtin? (Chars.trim line'.toList) with
      | some out' =>
        obtain ⟨out, hstands, -⟩ :=
          h.trim.symm.stands (Shortcut.builtin?_eq_some_iff.1 hbuiltin')
        exact nomatch hbuiltin.symm.trans hstands.builtin?_eq
      | none => exact h.ofLine

/-- A creation in two letter cases, with a title that keeps its own, and an alias in capitals. -/
theorem parse_recased_add :
    SaysSame (parse [] "ADD Task\tFix It ") (parse [] "add tASK\tFix It ") ∧
      SaysSame (parse [("mine", "list tasks --limit=5")] "MINE ")
        (parse [("mine", "list tasks --limit=5")] "Mine ") := by
  have hadd : SameLetters "ADD".toList "add".toList := ⟨by decide, by decide, by decide⟩
  have htask : SameLetters "Task".toList "tASK".toList :=
    ⟨by decide, by decide, by decide⟩
  have hmine : SameLetters "MINE".toList "Mine".toList :=
    ⟨by decide, by decide, by decide⟩
  have htitle : FirstRecased ("Task".toList ++ "\tFix It ".toList)
      ("tASK".toList ++ "\tFix It ".toList) := .mk htask (by simp [isBlank])
  have halias : FirstRecased ("MINE".toList ++ " ".toList) ("Mine".toList ++ " ".toList) :=
    .mk hmine (by simp [isBlank])
  have hline : Recased "ADD Task\tFix It ".toList "add tASK\tFix It ".toList :=
    .two hadd (List.forall_mem_singleton.2 (by decide)) (List.cons_ne_nil ' ' []) htitle
  exact ⟨parse_recased [] hline, parse_recased _ (.one halias)⟩

end Command

end TaskShell
