import TaskShell.Proofs.Command.Shortcuts
import TaskShell.Proofs.Shell.Spoken

/-!
# Titles and ids in shortcuts

A shortcut of two words and a text is typed in many ways: each word in any letter case, and with any
blanks around it. Whichever is chosen, the text ends up in the command as it is. A title loses the
blanks around it and one pair of equal quotes. Behind `create` it stands in double quotes, where all
else stands for itself, so that it is the target even if it looks like flags, has apostrophes or is
empty. An id is one word, and it is the target if it does not have the form of a flag.

## Main definitions

* `Shortcut.Unwraps` — what is left of a text without a pair of equal quotes around it.
* `Shortcut.Typing` — the ways to type a shortcut of two words and a text.
* `Command.creatingTitled`, `Command.settingStatus` — the commands that these shortcuts stand for.

## Main results

* `Shortcut.Typing.takeWord_line` — the words of such a shortcut.
* `Command.normalize_ofLine_createLine`, `Command.normalize_ofLine_statusLine` — the commands that the
  lines behind shortcuts spell.
* `Command.titles_survive` — titles and ids are the targets of these commands.
-/

set_option autoImplicit false

namespace TaskShell

open Text (isBlank)

namespace Chars

variable {p : Char → Bool} {cs : List Char}

/-! ## Trimmed texts -/

/-- What is left without the end of a text begins the text. -/
lemma dropEnd_begins (p : Char → Bool) (cs : List Char) : dropEnd p cs <+: cs := by
  rw [dropEnd, ← List.reverse_suffix, List.reverse_reverse]
  exact List.dropWhile_suffix p

/-- Something is left without the end of a text that does not only have characters of the class. -/
lemma dropEnd_ne_nil (h : ∃ c ∈ cs, p c = false) : dropEnd p cs ≠ [] := by
  obtain ⟨c, hc, hp⟩ := h
  rw [dropEnd, Ne, List.reverse_eq_nil_iff, List.dropWhile_eq_nil_iff]
  intro hall
  rw [hall c (List.mem_reverse.2 hc)] at hp
  exact absurd hp (by decide)

/-- The blanks at the end of a text that goes on behind a word are those at the end of what goes on. -/
lemma dropEnd_append_word {word rest : List Char} (hword : ∀ c ∈ word, isBlank c = false) :
    dropEnd isBlank (word ++ rest) = word ++ dropEnd isBlank rest := by
  by_cases hrest : dropEnd isBlank rest = []
  · have hblank : ∀ c ∈ rest, isBlank c = true := by
      by_contra hnot
      exact dropEnd_ne_nil (by simpa using hnot) hrest
    rw [hrest, List.append_nil]
    exact Token.dropEnd_of_getLast (fun c hc => hword c (List.mem_of_mem_getLast? hc)) hblank
  · exact Token.dropEnd_append hrest

/-- A text may be trimmed from either side first. -/
lemma dropWhile_dropEnd (cs : List Char) :
    (dropEnd isBlank cs).dropWhile isBlank = trim cs := by
  have hsplit := List.takeWhile_append_dropWhile (p := isBlank) (l := cs)
  have hblank : ∀ c ∈ cs.takeWhile isBlank, isBlank c = true := fun c hc => List.mem_takeWhile_imp hc
  rw [trim]
  cases hrest : cs.dropWhile isBlank with
  | nil =>
    have hall : ∀ c ∈ cs.reverse, isBlank c = true := by
      intro c hc
      exact List.dropWhile_eq_nil_iff.1 hrest c (List.mem_reverse.1 hc)
    have hnone : dropEnd isBlank cs = [] := by rw [dropEnd, List.dropWhile_eq_nil_iff.2 hall]; rfl
    rw [hnone]
    rfl
  | cons c rest =>
    have hc : isBlank c = false := head_dropWhile isBlank cs c (by rw [hrest]; rfl)
    have hne : dropEnd isBlank (c :: rest) ≠ [] := dropEnd_ne_nil ⟨c, List.mem_cons_self, hc⟩
    have hbegins : ∀ d ∈ (dropEnd isBlank (c :: rest)).head?, isBlank d = false := by
      have hprefix := dropEnd_begins isBlank (c :: rest)
      obtain ⟨d, ds, hcons⟩ := List.exists_cons_of_ne_nil hne
      rw [hcons] at hprefix ⊢
      rw [(List.cons_prefix_cons.1 hprefix).1]
      simpa using hc
    rw [hrest] at hsplit
    rw [← hsplit, Token.dropEnd_append hne]
    exact (takeWhile_run hblank hbegins).2

/-- Something is left of a text that is not blank when it is trimmed. -/
lemma trim_ne_nil (h : ∃ c ∈ cs, isBlank c = false) : trim cs ≠ [] := by
  obtain ⟨c, hc, hblank⟩ := h
  refine dropEnd_ne_nil ⟨c, ?_, hblank⟩
  rw [← List.takeWhile_append_dropWhile (p := isBlank) (l := cs), List.mem_append] at hc
  refine hc.resolve_left fun hfront => ?_
  rw [List.mem_takeWhile_imp hfront] at hblank
  exact absurd hblank (by decide)

/-- A trimmed text begins with no blank. -/
lemma head_trim (cs : List Char) : ∀ c ∈ (trim cs).head?, isBlank c = false := by
  rw [← dropWhile_dropEnd]
  exact head_dropWhile isBlank _

/-- A trimmed text ends with no blank. -/
lemma getLast_trim (cs : List Char) : ∀ c ∈ (trim cs).getLast?, isBlank c = false := by
  rw [trim, dropEnd, List.getLast?_reverse]
  exact head_dropWhile isBlank _

/-- A trimmed text is trimmed. -/
lemma trim_trim (cs : List Char) : trim (trim cs) = trim cs :=
  Token.trim_of_ends (head_trim cs) (getLast_trim cs)

/-- A trimmed text has no other characters. -/
lemma trim_subset (cs : List Char) : trim cs ⊆ cs := fun _ hc =>
  (List.dropWhile_suffix isBlank).subset ((dropEnd_begins isBlank _).subset hc)

end Chars

namespace Shortcut

/-! ## Quotes around a text -/

/-- A text and what is left of it without one pair of equal quotes around it, if it has one. -/
inductive Unwraps (text : List Char) : List Char → Prop
  | wrapped {mark : Char} {bare : List Char} (quote : Token.isQuote mark = true)
      (form : text = mark :: (bare ++ [mark])) : Unwraps text bare
  | bare (form : ∀ mark inner, Token.isQuote mark = true → text ≠ mark :: (inner ++ [mark])) :
      Unwraps text text

/-- A text loses one pair of equal quotes around it. -/
lemma unwraps_unquote (text : List Char) : Unwraps text (unquote text) := by
  unfold unquote
  split
  · next mark rest =>
    split
    · next hquotes =>
      simp only [Bool.and_eq_true, beq_iff_eq] at hquotes
      obtain ⟨⟨hmark, -⟩, hlast⟩ := hquotes
      refine .wrapped hmark ?_
      rw [List.dropLast_append_getLast? mark hlast]
    · next hquotes =>
      refine .bare fun mark' inner hmark htext => hquotes ?_
      obtain ⟨rfl, rfl⟩ := List.cons.inj htext
      simp [hmark]
  · exact .bare fun _ _ _ htext => nomatch htext

/-- There is one text that is left. -/
lemma Unwraps.unique {text bare bare' : List Char} (h : Unwraps text bare) (h' : Unwraps text bare') :
    bare = bare' := by
  cases h with
  | wrapped hquote hform =>
    cases h' with
    | wrapped hquote' hform' =>
      obtain ⟨rfl, hinner⟩ := List.cons.inj (hform.symm.trans hform')
      exact List.append_cancel_right hinner
    | bare hform' => exact absurd hform (hform' _ _ hquote)
  | bare hform =>
    cases h' with
    | wrapped hquote' hform' => exact absurd hform' (hform _ _ hquote')
    | bare => rfl

/-! ## Shortcuts as they are typed -/

open Command (IsBare)

/-- How a shortcut of two words and a text is typed: blanks, and each of the words in a form that
reads as it, as the word does in any letter case (`reads_of_fold`), with blanks behind. -/
structure Typing (head word : String) where
  indent : String
  first : String
  gap : String
  second : String
  margin : String
  indent_blank : Text.isBlankLine indent = true
  first_reads : Reads first.toList head
  gap_blank : Text.isBlankLine gap = true
  gap_ne : gap ≠ ""
  second_reads : Reads second.toList word
  margin_blank : Text.isBlankLine margin = true
  margin_ne : margin ≠ ""

/-- The line that is typed for a text. -/
def Typing.line {head word : String} (t : Typing head word) (text : String) : String :=
  t.indent ++ (t.first ++ (t.gap ++ (t.second ++ (t.margin ++ text))))

/-- The keywords as they are, with a blank behind each. -/
def Typing.spaced {head word : String} (hhead : Reads head.toList head)
    (hword : Reads word.toList word) : Typing head word :=
  { indent := ""
    first := head
    gap := " "
    second := word
    margin := " "
    indent_blank := rfl
    first_reads := hhead
    gap_blank := rfl
    gap_ne := by decide
    second_reads := hword
    margin_blank := rfl
    margin_ne := by decide }

/-- A form of a bare word has characters, and none of them is a blank. -/
lemma Reads.apart {cs : List Char} {keyword : String} (h : Reads cs keyword) (hbare : IsBare keyword) :
    cs ≠ [] ∧ ∀ c ∈ cs, isBlank c = false := by
  refine ⟨?_, h.not_blank (not_blank_of_isBare hbare)⟩
  rintro rfl
  exact hbare.ne_nil h.symm

/-- The words of a shortcut as it is typed, and the trimmed text behind them. -/
lemma Typing.takeWord_line {head word text : String} (t : Typing head word) (hhead : IsBare head)
    (hword : IsBare word) (htext : ∃ c ∈ text.toList, isBlank c = false) :
    ∃ rest, takeWord (Chars.trim (t.line text).toList) = (t.first.toList, rest) ∧
      takeWord rest = (t.second.toList, Chars.trim text.toList) := by
  obtain ⟨hfirst, hfirstPlain⟩ := t.first_reads.apart hhead
  obtain ⟨hsecond, hsecondPlain⟩ := t.second_reads.apart hword
  have hindent : ∀ c ∈ t.indent.toList, isBlank c = true := List.all_eq_true.1 t.indent_blank
  have hgap : ∀ c ∈ t.gap.toList, isBlank c = true := List.all_eq_true.1 t.gap_blank
  have hmargin : ∀ c ∈ t.margin.toList, isBlank c = true := List.all_eq_true.1 t.margin_blank
  have hgapNe : t.gap.toList ≠ [] := by simpa using t.gap_ne
  have hmarginNe : t.margin.toList ≠ [] := by simpa using t.margin_ne
  -- the blanks at the end of the line are those at the end of the text
  have htrim : Chars.trim (t.line text).toList = t.first.toList ++ (t.gap.toList ++
      (t.second.toList ++ (t.margin.toList ++ Chars.dropEnd isBlank text.toList))) := by
    have hdrop := (Chars.takeWhile_run hindent (Chars.forall_head_append hfirst hfirstPlain
      (t.gap.toList ++ (t.second.toList ++ (t.margin.toList ++ text.toList))))).2
    simp only [line, String.toList_append]
    rw [Chars.trim, hdrop]
    simp only [← List.append_assoc]
    rw [Token.dropEnd_append (Chars.dropEnd_ne_nil htext)]
  refine ⟨t.second.toList ++ (t.margin.toList ++ Chars.dropEnd isBlank text.toList), ?_, ?_⟩
  · rw [htrim, takeWord_of_apart hfirstPlain (Chars.forall_head_append hgapNe hgap _),
      (Chars.takeWhile_run hgap (Chars.forall_head_append hsecond hsecondPlain _)).2]
  · rw [takeWord_of_apart hsecondPlain (Chars.forall_head_append hmarginNe hmargin _),
      List.dropWhile_append_of_pos hmargin, Chars.dropWhile_dropEnd]

/-- A shortcut that is no alias is expanded to the line that it stands for. -/
lemma Stands.expand_eq {aliases : Entries String} {line out : String}
    (h : Stands (Chars.trim line.toList) out) (halias : Unaliased aliases (Text.trim line)) :
    expand aliases line = out := by
  rw [Unaliased, Text.lower, Text.trim, String.toList_ofList] at halias
  have hnone : (aliases.value? (String.ofList (Chars.lower (Chars.trim line.toList)))).filter
      (· != "") = none := halias
  simp [expand, hnone, h.builtin?_eq]

/-- The words that head shortcuts for creations and for the status of a task are bare, and so are those
for kinds of records. -/
lemma words_isBare : (∀ head ∈ ["add", "install"], IsBare head) ∧
    (∀ p ∈ progressions, IsBare p.1) ∧ ∀ word ∈ ["task", "tsk"], IsBare word := by
  decide

/-- What is known of the words for kinds of records, and of the names of these kinds. -/
lemma creations_spec : ∀ group ∈ creations, IsBare group.2 ∧ Vocabulary.entity group.2 = group.2 ∧
    ∀ word ∈ group.1, IsBare word ∧ Reads word.toList word ∧
      lookup? creations word.toList = some group.2 := by
  decide +kernel

variable {head word name status : String} {words : List String}

/-- A shortcut that creates a record stands for the line with its title, less blanks and quotes around
it. -/
lemma Typing.stands_creation (t : Typing head word) (hhead : head ∈ ["add", "install"])
    (hgroup : (words, name) ∈ creations) (hword : word ∈ words) {title : String}
    (hshown : ∃ c ∈ title.toList, isBlank c = false) (honeLine : '\n' ∉ title.toList) :
    Stands (Chars.trim (t.line title).toList)
      (createLine name (String.ofList (unquote (Chars.trim title.toList)))) := by
  obtain ⟨-, -, hwords⟩ := creations_spec _ hgroup
  obtain ⟨hbare, hreads, hlookup⟩ := hwords word hword
  obtain ⟨rest, hfirst, hsecond⟩ := t.takeWord_line (words_isBare.1 head hhead) hbare hshown
  have hheads : isKeyword ["install", "add"] t.first.toList = true :=
    isKeyword_iff.2 ⟨head, by simpa [or_comm] using hhead, t.first_reads⟩
  rw [← lookup?_congr (t.second_reads.trans hreads.symm)] at hlookup
  exact .creation hfirst hsecond hheads hlookup (Chars.trim_ne_nil hshown)
    fun hmem => honeLine (Chars.trim_subset _ hmem)

/-- A shortcut for the status of a task stands for the line that sets it. -/
lemma Typing.stands_progress (t : Typing head word) (hp : (head, status) ∈ progressions)
    (hword : word ∈ ["task", "tsk"]) {id : String} (hid : IsBare id) :
    Stands (Chars.trim (t.line id).toList) (statusLine id status) := by
  have hplain := not_blank_of_isBare hid
  obtain ⟨c, hc⟩ := List.exists_mem_of_ne_nil _ hid.ne_nil
  obtain ⟨rest, hfirst, hsecond⟩ := t.takeWord_line (words_isBare.2.1 _ hp)
    (words_isBare.2.2 word hword) ⟨c, hc, hplain c hc⟩
  have htrim : Chars.trim id.toList = id.toList :=
    Token.trim_of_ends (fun c hc => hplain c (List.mem_of_mem_head? hc))
      fun c hc => hplain c (List.mem_of_mem_getLast? hc)
  rw [htrim] at hsecond
  have hstands := Stands.progress hfirst hsecond hp
    (isKeyword_iff.2 ⟨head, List.mem_singleton_self head, t.first_reads⟩)
    (isKeyword_iff.2 ⟨word, by simpa [or_comm] using hword, t.second_reads⟩) hid.ne_nil hplain
  rwa [String.ofList_toList] at hstands

end Shortcut

namespace Command

open Token (Word FlagForm PairForm isPlain)
open Shortcut (createLine statusLine progressions Typing Unwraps)

variable {name title id head status : String}

/-! ## The commands behind shortcuts -/

/-- The command that creates a record with a title. -/
def creatingTitled (name title : String) : Command :=
  { verb := some "create", entity := some name, target := some title, raw := createLine name title }

/-- The line that creates a record spells that command, whatever stands between the quotes. -/
lemma normalize_ofLine_createLine (hname : IsBare name) (hkind : Vocabulary.entity name = name)
    (htitle : '"' ∉ title.toList) :
    (ofLine (createLine name title)).normalize = creatingTitled name title := by
  have hcreate : IsBare "create" := by decide
  have hwords : (createLine name title).toList = Token.spellApart [.plain "create".toList]
      [[.plain name.toList], [.quoted '"' title.toList true]] := by
    simp [createLine, Token.spellApart, Word.spelling, Token.Segment.spelling]
  have hcomplete : ∀ v ∈ [[Token.Segment.plain name.toList], [.quoted '"' title.toList true]],
      Word.Complete v :=
    List.forall_mem_cons.2 ⟨hname.complete,
      List.forall_mem_singleton.2 (Word.complete_quoted htitle)⟩
  have hquoted : Role.ofToken ⟨title.toList, true⟩ = .positional title := by
    simp [Role.ofToken, Token.setting?]
  have hroles : ofRoles [.positional "create", .positional name, .positional title]
      (createLine name title) = creatingTitled name title := rfl
  have hverb : Vocabulary.verb "create" = "create" := by decide +kernel
  rw [ofLine_spellApart hcreate.complete hcomplete hwords, List.map_cons, List.map_cons,
    List.map_singleton, Word.token_plain, Word.token_plain, Word.token_quoted, hcreate.positional,
    hname.positional, hquoted, hroles]
  simp [normalize, creatingTitled, hverb, hkind]

/-- The command that sets the status of a task. -/
def settingStatus (id status : String) : Command :=
  { verb := some "update", entity := some "task", target := some id, flags := [("status", status)],
    raw := statusLine id status }

/-- The flags behind shortcuts set the status. -/
lemma statusFlag_spec : ∀ p ∈ progressions,
    Role.ofToken ⟨("status:" ++ p.2).toList, false⟩ = .setting "status" p.2 ∧
      ("status:" ++ p.2).toList.all isPlain = true := by
  decide

/-- The line that sets the status of a task spells that command. -/
lemma normalize_ofLine_statusLine (hp : (head, status) ∈ progressions) (hid : IsBare id) :
    (ofLine (statusLine id status)).normalize = settingStatus id status := by
  obtain ⟨hrole, hplain⟩ := statusFlag_spec _ hp
  have hupdate : IsBare "update" := by decide
  have htask : IsBare "task" := by decide
  have hflag : Word.Complete [.plain ("status:" ++ status).toList] :=
    Word.complete_plain (by simp) (List.all_eq_true.1 hplain)
  have hwords : (statusLine id status).toList = Token.spellApart [.plain "update".toList]
      [[.plain "task".toList], [.plain id.toList], [.plain ("status:" ++ status).toList]] := by
    simp [statusLine, Token.spellApart, Word.spelling, Token.Segment.spelling]
  have hcomplete : ∀ v ∈ [[Token.Segment.plain "task".toList], [.plain id.toList],
      [.plain ("status:" ++ status).toList]], Word.Complete v :=
    List.forall_mem_cons.2 ⟨htask.complete, List.forall_mem_cons.2
      ⟨hid.complete, List.forall_mem_singleton.2 hflag⟩⟩
  have hnormal : Vocabulary.verb "update" = "update" ∧ Vocabulary.entity "task" = "task" := by
    decide +kernel
  have hroles : ofRoles [.positional "update", .positional "task", .positional id,
      .setting "status" status] (statusLine id status) = settingStatus id status := rfl
  rw [ofLine_spellApart hupdate.complete hcomplete hwords, List.map_cons, List.map_cons,
    List.map_cons, List.map_singleton, Word.token_plain, Word.token_plain, Word.token_plain,
    Word.token_plain, hupdate.positional, htask.positional, hid.positional, hrole, hroles]
  simp [normalize, settingStatus, hnormal]

/-- A word without quotes that has not the form of a flag is bare. -/
lemma isBare_of_not_form (hne : id ≠ "") (hplain : ∀ c ∈ id.toList, isPlain c = true)
    (hform : ∀ key value, ¬ FlagForm id.toList key value ∧ ¬ PairForm id.toList key value) :
    IsBare id := by
  have hplays : Word.Plays [.plain id.toList] (.positional id) := by
    have hbare : Word.Plays [.plain id.toList]
        (.positional (String.ofList (Word.content [.plain id.toList]))) := by
      refine .bare rfl (fun k v => ?_) fun k v => ?_
      · simpa [Word.content, Token.Segment.content] using (hform k v).1
      · simpa [Word.content, Token.Segment.content] using (hform k v).2
    simpa [Word.content, Token.Segment.content] using hbare
  refine ⟨by simpa using hne, hplain, ?_⟩
  rw [← Word.token_plain]
  exact (Word.plays_iff.1 hplays).symm

/-! ## Titles and ids are targets -/

/-- **Titles and ids survive.** Without aliases, and in whatever form the words are typed and with
whatever blanks between them:

* `add` or `install`, a word for a kind of records and a title on one line, which is not blank and,
  trimmed and less a pair of equal quotes around it, has no double quotes, is read as the creation of a
  record of that kind with exactly this title and no flags;
* `done` or `start`, a word for tasks and an id, which is a word without quotes and does not have the
  form of a flag, is read as the update of the task with exactly this id by its status alone.

**Proof sketch.** The words are taken from the trimmed line (`Typing.takeWord_line`), so that it is a
shortcut and stands for one line (`Stands.expand_eq`). The words of that line are read one by one, and
the title is one of them. -/
theorem titles_survive :
    (∀ head ∈ ["add", "install"], ∀ words name, (words, name) ∈ Shortcut.creations →
      ∀ word ∈ words, ∀ (t : Typing head word) (title bare : String),
        (∃ c ∈ title.toList, isBlank c = false) → '\n' ∉ title.toList →
        Unwraps (Chars.trim title.toList) bare.toList → '"' ∉ bare.toList →
        SaysSame (parse [] (t.line title))
          { verb := some "create", entity := some name, target := some bare }) ∧
    ∀ head status, (head, status) ∈ progressions →
      ∀ word ∈ ["task", "tsk"], ∀ (t : Typing head word) (id : String), id ≠ "" →
        (∀ c ∈ id.toList, isPlain c = true) →
        (∀ key value, ¬ FlagForm id.toList key value ∧ ¬ PairForm id.toList key value) →
        SaysSame (parse [] (t.line id))
          { verb := some "update", entity := some "task", target := some id,
            flags := [("status", status)] } := by
  refine ⟨?_, ?_⟩
  · intro head hhead words name hgroup word hword t title bare hshown honeLine hunwraps hquote
    obtain ⟨hname, hkind, -⟩ := Shortcut.creations_spec _ hgroup
    have hbare : String.ofList (Shortcut.unquote (Chars.trim title.toList)) = bare := by
      rw [(Shortcut.unwraps_unquote _).unique hunwraps, String.ofList_toList]
    have hstands := t.stands_creation hhead hgroup hword hshown honeLine
    rw [hbare] at hstands
    rw [parse, hstands.expand_eq (Shortcut.unaliased_nil _),
      normalize_ofLine_createLine hname hkind hquote]
    exact ⟨rfl, rfl, rfl, rfl⟩
  · intro head status hp word hword t id hne hplain hform
    have hid := isBare_of_not_form hne hplain hform
    have hstands := t.stands_progress hp hword hid
    rw [parse, hstands.expand_eq (Shortcut.unaliased_nil _), normalize_ofLine_statusLine hp hid]
    exact ⟨rfl, rfl, rfl, rfl⟩

/-- `install` in mixed case, with blanks of several kinds. -/
def typedInstall : Typing "install" "prj" :=
  { indent := " "
    first := "InStall"
    gap := "\t "
    second := "PRJ"
    margin := "  "
    indent_blank := by decide
    first_reads := Shortcut.reads_of_fold (by decide) (by decide)
    gap_blank := by decide
    gap_ne := by decide
    second_reads := Shortcut.reads_of_fold (by decide) (by decide)
    margin_blank := by decide
    margin_ne := by decide }

/-- `start` in capitals. -/
def typedStart : Typing "start" "task" :=
  { indent := ""
    first := "START"
    gap := "  "
    second := "Task"
    margin := "\t"
    indent_blank := by decide
    first_reads := Shortcut.reads_of_fold (by decide) (by decide)
    gap_blank := by decide
    gap_ne := by decide
    second_reads := Shortcut.reads_of_fold (by decide) (by decide)
    margin_blank := by decide
    margin_ne := by decide }

/-- A title in quotes with an apostrophe and something like a flag, and an id with a colon. -/
theorem titles_survive_lookalikes :
    SaysSame (parse [] " InStall\t PRJ  \" Don't --wait=x \" ")
      { verb := some "create", entity := some "project", target := some " Don't --wait=x " } ∧
    SaysSame (parse [] "START  Task\tA1:")
      { verb := some "update", entity := some "task", target := some "A1:",
        flags := [("status", "active")] } := by
  have hinstall : typedInstall.line "\" Don't --wait=x \" " =
      " InStall\t PRJ  \" Don't --wait=x \" " := rfl
  have hstart : typedStart.line "A1:" = "START  Task\tA1:" := rfl
  have hbare : Shortcut.unquote (Chars.trim "\" Don't --wait=x \" ".toList) =
      " Don't --wait=x ".toList := by decide
  have hunwraps := Shortcut.unwraps_unquote (Chars.trim "\" Don't --wait=x \" ".toList)
  rw [hbare] at hunwraps
  have hform : Token.flag? "A1:".toList = none ∧ Token.pair? "A1:".toList = none := by decide
  have hcreation := titles_survive.1 "install" (by decide) ["prj", "project"] "project" (by decide)
    "prj" (by decide) typedInstall "\" Don't --wait=x \" " " Don't --wait=x "
    ⟨'D', by decide, by decide⟩ (by decide) hunwraps (by decide)
  have hprogress := titles_survive.2 "start" "active" (by decide) "task" (by decide) typedStart "A1:"
    (by decide) (by decide) fun key value =>
      ⟨Token.flag?_eq_none_iff.1 hform.1 key value, Token.pair?_eq_none_iff.1 hform.2 key value⟩
  rw [hinstall] at hcreation
  rw [hstart] at hprogress
  exact ⟨hcreation, hprogress⟩

end Command

end TaskShell
