import TaskShell.Proofs.Command.LetterCase

/-!
# Shortcuts are expanded once

The line that a shortcut stands for is no shortcut itself: it begins with `list`, `create` or `update`,
or it is `man`, none of which heads one. What the user has typed stands behind that word and cannot
change it. The one exception is `help unfold`, which stands for `man unfold`. That line is a shortcut
for `man`, but it is not expanded again: it is read as it is, and there is no such page.

## Main definitions

* `Shortcut.AsksUnfold` — the lines that are the exception.

## Main results

* `Shortcut.Stands.settles` — what a shortcut stands for is none itself, or it is `man unfold`.
* `Shortcut.expand_settles` — expansion comes to an end after one pass, but for the exception.
-/

set_option autoImplicit false

namespace TaskShell.Shortcut

open Command (IsBare)
open Text (isBlank isWord basicLower foldBasic)

variable {line topic out : String} {cs : List Char}

/-- A line that asks for the page `unfold` of the manual, and the word as it is typed: without the
blanks around it the line is `help`, blanks and `unfold`, in any letter case. -/
def AsksUnfold (line topic : String) : Prop :=
  ∃ verb gap : String, Text.trim line = verb ++ (gap ++ topic) ∧ gap ≠ "" ∧
    Text.isBlankLine gap = true ∧ foldBasic verb = "help".toList ∧ foldBasic topic = "unfold".toList

/-- The words `help` and `unfold` are read in any letter case, and from no other letters. -/
lemma isKeyword_iff_fold {keyword : String} (h : keyword ∈ ["help", "unfold"]) :
    isKeyword [keyword] cs = true ↔ cs.map basicLower = keyword.toList := by
  have hall : ∀ keyword ∈ ["help", "unfold"], ∀ c ∈ keyword.toList,
      Text.IsBasic c ∧ c ∉ ['i', 's', 'k'] := by decide
  rw [isKeyword_iff, ← reads_iff_fold (hall keyword h)]
  simp

/-- What is read as one of them differs from it in letter case alone. -/
lemma sameLetters_of_isKeyword {keyword : String} (h : keyword ∈ ["help", "unfold"])
    (hkeyword : isKeyword [keyword] cs = true) : Text.SameLetters keyword.toList cs := by
  have hall : ∀ keyword ∈ ["help", "unfold"], keyword.toList ≠ [] ∧
      (∀ c ∈ keyword.toList, Text.IsBasicLetter c) ∧
      keyword.toList.map basicLower = keyword.toList := by decide
  obtain ⟨hne, hletters, hlower⟩ := hall keyword h
  exact ⟨hne, hletters, hlower.trans ((isKeyword_iff_fold h).1 hkeyword).symm⟩

/-- Such a line is one whose first word is read as `help` and the rest as `unfold`. -/
lemma asksUnfold_iff : AsksUnfold line topic ↔
    ∃ verb, takeWord (Chars.trim line.toList) = (verb, topic.toList) ∧
      isKeyword ["help"] verb = true ∧ isKeyword ["unfold"] topic.toList = true := by
  constructor
  · rintro ⟨verb, gap, hline, hgap, hblank, hverb, htopic⟩
    have hhelp := (isKeyword_iff_fold (by decide)).2 hverb
    have hunfold := (isKeyword_iff_fold (by decide)).2 htopic
    have hplain := (sameLetters_of_isKeyword (by decide) hhelp).symm.not_blank
    have hbegins := (sameLetters_of_isKeyword (by decide) hunfold).symm.not_blank
    have hblanks : ∀ c ∈ gap.toList, isBlank c = true := List.all_eq_true.1 hblank
    have hchars : Chars.trim line.toList = verb.toList ++ (gap.toList ++ topic.toList) := by
      rw [← String.toList_ofList (l := Chars.trim line.toList)]
      exact (congrArg String.toList hline).trans (by simp)
    have hrest : (gap.toList ++ topic.toList).dropWhile isBlank = topic.toList :=
      (Chars.takeWhile_run hblanks fun c hc => hbegins c (List.mem_of_mem_head? hc)).2
    refine ⟨verb.toList, ?_, hhelp, hunfold⟩
    rw [hchars, takeWord_of_apart hplain
      (Chars.forall_head_append (by simpa using hgap) hblanks topic.toList), hrest]
  · rintro ⟨verb, hfirst, hhelp, hunfold⟩
    have hne := (sameLetters_of_isKeyword (by decide) hunfold).symm.ne_nil
    obtain ⟨gap, hline, hgap, hblank⟩ := exists_gap_of_takeWord hfirst hne
    refine ⟨String.ofList verb, String.ofList gap, ?_, by simpa using hgap, ?_, ?_, ?_⟩
    · rw [Text.trim, hline]
      simp
    · simpa [Text.isBlankLine] using hblank
    · simpa [Text.foldBasic_eq] using (isKeyword_iff_fold (by decide)).1 hhelp
    · exact (isKeyword_iff_fold (by decide)).1 hunfold

/-- The word for the page is `unfold` in some letter case. -/
lemma AsksUnfold.sameLetters (h : AsksUnfold line topic) :
    Text.SameLetters "unfold".toList topic.toList := by
  obtain ⟨-, -, -, hunfold⟩ := asksUnfold_iff.1 h
  exact sameLetters_of_isKeyword (by decide) hunfold

/-- Such a line is a shortcut. -/
lemma AsksUnfold.stands (h : AsksUnfold line topic) :
    Stands (Chars.trim line.toList) (pageLine topic) := by
  obtain ⟨verb, hfirst, hhelp, -⟩ := asksUnfold_iff.1 h
  have htopic := h.sameLetters.symm
  have hstands := Stands.page hfirst hhelp htopic.ne_nil fun c hc => (htopic.letters c hc).spec.1
  rwa [String.ofList_toList] at hstands

/-! ## What shortcuts stand for -/

/-- A bare word ends with no blank. -/
lemma exists_getLast_of_isBare {word : String} (h : IsBare word) :
    ∃ c, word.toList.getLast? = some c ∧ isBlank c = false :=
  ⟨_, List.getLast?_eq_some_getLast h.ne_nil, not_blank_of_isBare h _ (List.getLast_mem _)⟩

/-- A line that begins with a bare word and ends with no blank is trimmed. -/
lemma trim_of_isBare {word : String} {rest : List Char} (hword : IsBare word)
    (hlast : ∃ c, rest.getLast? = some c ∧ isBlank c = false) :
    Chars.trim (word.toList ++ ' ' :: rest) = word.toList ++ ' ' :: rest := by
  obtain ⟨c, hc, hblank⟩ := hlast
  refine Token.trim_of_ends (not_blank_of_head hword) fun d hd => ?_
  rw [List.append_cons, List.getLast?_append, hc] at hd
  rwa [← Option.some.inj hd]

/-- A line that begins with a word that heads no shortcut is none. -/
lemma builtin?_trim_of_heading {word : String} {rest : List Char} (hword : IsBare word)
    (hhead : ∀ c ∈ rest.head?, isBlank c = false)
    (hlast : ∃ c, rest.getLast? = some c ∧ isBlank c = false)
    (h : isKeyword headings word.toList = false) (hline : out.toList = word.toList ++ ' ' :: rest) :
    builtin? (Chars.trim out.toList) = none := by
  rw [hline, trim_of_isBare hword hlast, builtin?_of_heading (not_blank_of_isBare hword) hhead h]

/-- The line that lists the records of a kind is no shortcut. -/
lemma builtin?_listLine {plural : String} (h : lookup? listings cs = some plural) :
    builtin? (Chars.trim (listLine plural).toList) = none := by
  have hall : ∀ group ∈ listings, IsBare group.2 := by decide
  obtain ⟨words, hmem⟩ := exists_mem_of_lookup? h
  have hbare : IsBare plural := hall _ hmem
  have hhead : ∀ c ∈ plural.toList.head?, isBlank c = false :=
    fun c hc => not_blank_of_isBare hbare c (List.mem_of_mem_head? hc)
  have hline : (listLine plural).toList = "list".toList ++ ' ' :: plural.toList := by
    simp [listLine]
  exact builtin?_trim_of_heading (by decide) hhead (exists_getLast_of_isBare hbare) (by decide) hline

/-- The line that creates a record is no shortcut, whatever its title. -/
lemma builtin?_createLine {name : String} (h : lookup? creations cs = some name) (title : String) :
    builtin? (Chars.trim (createLine name title).toList) = none := by
  obtain ⟨words, hmem⟩ := exists_mem_of_lookup? h
  obtain ⟨hname, -, -⟩ := creations_spec _ hmem
  have hline : (createLine name title).toList =
      "create".toList ++ ' ' :: (name.toList ++ (" \"".toList ++ title.toList ++ ['"'])) := by
    simp [createLine]
  refine builtin?_trim_of_heading (by decide) (not_blank_of_head hname) ⟨'"', ?_, by decide⟩
    (by decide) hline
  rw [← List.append_assoc, List.getLast?_concat]

/-- The line that sets the status of a task is no shortcut, whatever its id. -/
lemma builtin?_statusLine {head status : String} (h : (head, status) ∈ progressions) (id : String) :
    builtin? (Chars.trim (statusLine id status).toList) = none := by
  have hall : ∀ p ∈ progressions, IsBare p.2 := by decide
  obtain ⟨c, hc, hblank⟩ := exists_getLast_of_isBare (hall _ h)
  have hline : (statusLine id status).toList =
      "update".toList ++ ' ' :: ("task ".toList ++ id.toList ++ " status:".toList ++ status.toList) := by
    simp [statusLine]
  refine builtin?_trim_of_heading (by decide) (by simp [isBlank]) ⟨c, ?_, hblank⟩ (by decide) hline
  rw [List.getLast?_append, hc, Option.some_or]

/-- The line that opens a page of the manual is a shortcut just if the topic is read as `unfold`. -/
lemma builtin?_pageLine {topic : List Char} (hgiven : topic ≠ [])
    (hwhole : ∀ c ∈ topic, isWord c = true) :
    builtin? (Chars.trim (pageLine (String.ofList topic)).toList) =
      if isKeyword ["unfold"] topic then some "man" else none := by
  have hplain : ∀ c ∈ topic, isBlank c = false := fun c hc => Text.isBlank_of_isWord (hwhole c hc)
  have hline : (pageLine (String.ofList topic)).toList = "man".toList ++ ' ' :: topic := by
    simp [pageLine]
  have htrim : Chars.trim ("man".toList ++ ' ' :: topic) = "man".toList ++ ' ' :: topic :=
    trim_of_isBare (by decide)
      ⟨_, List.getLast?_eq_some_getLast hgiven, hplain _ (List.getLast_mem hgiven)⟩
  have hfirst : takeWord ("man".toList ++ ' ' :: topic) = ("man".toList, topic) :=
    takeWord_append (by decide) fun c hc => hplain c (List.mem_of_mem_head? hc)
  have hheads : isKeyword ["man"] "man".toList = true ∧ isKeyword ["help"] "man".toList = false := by
    decide
  rw [hline, htrim, builtin?, listing?_of_rest hfirst hgiven,
    creation?_of_heading hfirst (by decide), progress?_of_heading hfirst (by decide) (by decide)]
  unfold manual? topic?
  rw [hfirst]
  dsimp only
  rw [hheads.1, hheads.2]
  simp

/-- **What a shortcut stands for is no shortcut itself**, but for the page `unfold` of the manual, the
line for which stands for the whole manual.

**Proof sketch.** Case by case: the line begins with a word that heads no shortcut, whatever the user
has typed stands behind it, or it is `man` with or without a topic. -/
theorem Stands.settles (h : Stands cs out) : builtin? (Chars.trim out.toList) = none ∨
    ∃ verb topic, takeWord cs = (verb, topic) ∧ isKeyword ["help"] verb = true ∧
      isKeyword ["unfold"] topic = true ∧ out = pageLine (String.ofList topic) ∧
      builtin? (Chars.trim out.toList) = some "man" := by
  cases h with
  | listing hnamed => exact .inl (builtin?_listLine hnamed)
  | creation _ _ _ hnamed => exact .inl (builtin?_createLine hnamed _)
  | progress _ _ hlisted => exact .inl (builtin?_statusLine hlisted _)
  | manual => exact .inl (by decide)
  | @page verb topic hfirst hheads hgiven hwhole =>
    have hpage := builtin?_pageLine hgiven hwhole
    cases hunfold : isKeyword ["unfold"] topic with
    | true =>
      rw [hunfold, if_pos rfl] at hpage
      exact .inr ⟨verb, topic, hfirst, hheads, hunfold, rfl, hpage⟩
    | false =>
      rw [hunfold, if_neg Bool.false_ne_true] at hpage
      exact .inl hpage

/-! ## One pass of expansion -/

/-- The line for the page `unfold` is a shortcut. -/
lemma AsksUnfold.again (h : AsksUnfold line topic) :
    builtin? (Chars.trim (pageLine topic).toList) = some "man" := by
  obtain ⟨-, -, -, hunfold⟩ := asksUnfold_iff.1 h
  have htopic := h.sameLetters.symm
  have hpage := builtin?_pageLine htopic.ne_nil fun c hc => (htopic.letters c hc).spec.1
  rwa [String.ofList_toList, hunfold, if_pos rfl] at hpage

/-- What a shortcut stands for is no shortcut just if it does not ask for the page `unfold`. -/
lemma Stands.again_eq_none_iff (h : Stands (Chars.trim line.toList) out) :
    builtin? (Chars.trim out.toList) = none ↔ ∀ topic, ¬ AsksUnfold line topic := by
  constructor
  · intro hnone topic hasks
    -- a shortcut stands for one line
    have hout : out = pageLine topic :=
      Option.some.inj (h.builtin?_eq.symm.trans hasks.stands.builtin?_eq)
    rw [hout, hasks.again] at hnone
    exact nomatch hnone
  · intro hnot
    refine h.settles.resolve_right ?_
    rintro ⟨verb, topic, hfirst, hhelp, hunfold, -⟩
    rw [← String.toList_ofList (l := topic)] at hfirst hunfold
    exact hnot _ (asksUnfold_iff.2 ⟨verb, hfirst, hhelp, hunfold⟩)

/-- Without aliases a line is expanded to what it stands for as a shortcut, or it stays. -/
lemma expand_nil (line : String) :
    expand [] line = (builtin? (Chars.trim line.toList)).getD line := rfl

/-- A line that asks for the page `unfold` is read as a command that asks for it. -/
lemma AsksUnfold.parse_eq (h : AsksUnfold line topic) :
    (Command.parse [] line).verb = some "man" ∧ (Command.parse [] line).entity = some "unfold" := by
  have hman : Text.SameLetters "man".toList "man".toList := ⟨by decide, by decide, rfl⟩
  have hpage : ∀ topic : String, (pageLine topic).toList =
      "man".toList ++ ([' '] ++ (topic.toList ++ [])) := fun topic => by simp [pageLine]
  have hrecased : Command.Recased (pageLine "unfold").toList (pageLine topic).toList := by
    rw [hpage, hpage]
    exact .two hman (by decide) (List.cons_ne_nil _ _) (.mk h.sameLetters (by simp))
  have hsame := hrecased.ofLine
  have hknown : (Command.ofLine (pageLine "unfold")).normalize.verb = some "man" ∧
      (Command.ofLine (pageLine "unfold")).normalize.entity = some "unfold" := by
    decide +kernel
  rw [Command.parse, h.stands.expand_eq (unaliased_nil _), ← hsame.verb, ← hsame.entity]
  exact hknown

/-- The lines that tell that the manual has no page `unfold`. -/
def unknownTopic : List String :=
  ["No manual entry for \"unfold\"",
   "Available topics: list, create, info, remove, update, search, use",
   "Use \"man\" for full manual"]

/-- Such a line is answered by telling that there is no such page. -/
lemma AsksUnfold.perform_run (h : AsksUnfold line topic) (w : World) :
    (Shell.run [] line).perform w = (.ok .finished,
      { w with session := w.session.remember line,
               journal := w.journal ++ unknownTopic.map .line }) := by
  refine Shell.perform_run_builtin fun history => ?_
  have htrim : AsksUnfold (Text.trim line) topic := by
    obtain ⟨verb, gap, hline, hasks⟩ := h
    refine ⟨verb, gap, ?_, hasks⟩
    rw [← hline, Text.trim, Text.trim, String.toList_ofList, Chars.trim_trim]
  obtain ⟨hverb, hentity⟩ := htrim.parse_eq
  -- the line has a blank, and so it is not `help` on its own
  have hhelp : Text.lower (Text.trim line) ≠ "help" := by
    obtain ⟨verb, gap, hline, hgap, hblank, -⟩ := h
    obtain ⟨c, hc⟩ := List.exists_mem_of_ne_nil gap.toList (by simpa using hgap)
    rw [hline]
    exact Text.lower_ne_of_blank (List.all_eq_true.1 hblank c hc) (by simp [hc]) (by decide)
  have hgiven : Command.nonEmpty? (some "unfold") = some "unfold" := by decide
  have hpage : Manual.page "unfold" = unknownTopic := by decide +kernel
  unfold Shell.builtin?
  rw [hverb, hentity, hgiven, if_neg (by simp [hhelp]), if_pos (.inl rfl)]
  exact congrArg some hpage

/-- **Expansion comes to an end after one pass.** Without aliases:

* a second pass changes what a first one makes of a line just if the line asks for the page `unfold`;
* apart from these lines no shortcut stands for a line that is a shortcut itself;
* these lines are expanded to `man` and the word for the page, which stands for `man`. They are answered
  by telling that the page is not known. -/
theorem expand_settles (line : String) :
    (expand [] (expand [] line) = expand [] line ↔ ∀ topic, ¬ AsksUnfold line topic) ∧
    (∀ out, builtin? (Chars.trim line.toList) = some out →
      (builtin? (Chars.trim out.toList) = none ↔ ∀ topic, ¬ AsksUnfold line topic)) ∧
    ∀ topic, AsksUnfold line topic →
      expand [] line = "man " ++ topic ∧ expand [] ("man " ++ topic) = "man" ∧
      ∀ w : World, (Shell.run [] line).perform w = (.ok .finished,
        { w with session := w.session.remember line,
                 journal := w.journal ++ unknownTopic.map .line }) := by
  refine ⟨?_, fun out hout => (stands_of_builtin? hout).again_eq_none_iff, fun topic h =>
    ⟨h.stands.expand_eq (unaliased_nil _), ?_, h.perform_run⟩⟩
  · cases hbuiltin : builtin? (Chars.trim line.toList) with
    | none =>
      have hstays : expand [] line = line := by rw [expand_nil, hbuiltin, Option.getD_none]
      rw [hstays, hstays]
      refine iff_of_true rfl fun topic hasks => ?_
      exact nomatch hbuiltin.symm.trans hasks.stands.builtin?_eq
    | some out =>
      have hstands := stands_of_builtin? hbuiltin
      rw [hstands.expand_eq (unaliased_nil _), ← hstands.again_eq_none_iff, expand_nil]
      constructor
      · intro hsame
        refine hstands.settles.resolve_right ?_
        rintro ⟨verb, topic, -, -, hunfold, rfl, hman⟩
        rw [hman, Option.getD_some, ← String.toList_inj] at hsame
        simp [pageLine] at hsame
      · intro hnone
        rw [hnone, Option.getD_none]
  · have hagain := h.again
    rw [pageLine] at hagain
    rw [expand_nil, hagain, Option.getD_some]

/-- A line that asks for the page `unfold`, in mixed case and with blanks of several kinds. -/
theorem expand_settles_unfold :
    AsksUnfold "  HELP \t UnFold " "UnFold" ∧
    expand [] "  HELP \t UnFold " = "man UnFold" ∧
    expand [] (expand [] "  HELP \t UnFold ") ≠ expand [] "  HELP \t UnFold " ∧
    builtin? (Chars.trim "man UnFold".toList) ≠ none := by
  have hasks : AsksUnfold "  HELP \t UnFold " "UnFold" :=
    ⟨"HELP", " \t ", by decide, by decide, by decide, by decide, by decide⟩
  obtain ⟨hsettles, hnone, hexpand⟩ := expand_settles "  HELP \t UnFold "
  exact ⟨hasks, (hexpand "UnFold" hasks).1, fun hsame => hsettles.1 hsame "UnFold" hasks,
    fun h => (hnone "man UnFold" hasks.stands.builtin?_eq).1 h "UnFold" hasks⟩

end TaskShell.Shortcut
