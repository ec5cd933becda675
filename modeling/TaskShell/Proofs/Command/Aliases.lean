import TaskShell.Proofs.Command.Arguments
import TaskShell.Proofs.Command.Shortcuts
import TaskShell.Shell.Dispatch

/-!
# Other words for `create`

`new` stands for `create` in any command. So do `add` and `install`, but they also head a shortcut,
which is expanded before the line is split: it takes the rest of the line as a title and puts quotes
around it. A title in quotes that ends the line loses its own quotes first. With flags behind it the
title keeps them, so that the new quotes close at once: the title is cut at its first blank, and the
flags are swallowed by a span that opens behind it.

## Main definitions

* `Command.Title`, `Command.TypedFlag` — what follows the word for a kind of records.
* `Command.creationLine` — a line that creates a record.
* `Command.SaysSame` — commands that differ in their lines alone.

## Main results

* `Command.ofLine_creationLine` — the command that such a line spells.
* `Shortcut.expand_creationLine`, `Shortcut.expand_heading` — what shortcuts make of it.
* `Command.heading_agrees_iff` — `add` and `install` agree with `new` and `create` just if no flags
  follow the title.
-/

set_option autoImplicit false

namespace TaskShell

/-! ## Words with single blanks between them -/

/-- Texts joined by a blank stand after each other with the blank before each but the first. -/
lemma Text.toList_join (s : String) (rest : List String) :
    (Text.join " " (s :: rest)).toList = s.toList ++ rest.flatMap fun t => ' ' :: t.toList := by
  induction rest generalizing s with
  | nil => simp [Text.join]
  | cons t rest ih =>
    rw [Text.join, String.toList_append, String.toList_append, ih]
    · simp
    · exact List.cons_ne_nil t rest

namespace Token

/-- A word that ends before the line does. -/
def Word.Complete (w : Word) : Prop :=
  w.WellFormed ∧ w.isClosed = true

/-- Words with a blank before each but the first. -/
def spellApart (w : Word) (ws : List Word) : List Char :=
  w.spelling ++ ws.flatMap fun v => ' ' :: v.spelling

variable {w : Word} {ws : List Word}

/-- The token of a word comes before those after the blank behind it. -/
lemma splitFrom_complete (hw : w.Complete) (rest : List Char) :
    splitFrom .between (w.spelling ++ ' ' :: rest) = w.token :: splitFrom .between rest := by
  have hspaced : Spaced.WellFormed (w, [' ']) :=
    ⟨hw.1, List.forall_mem_singleton.2 rfl, fun hopen => by rw [hw.2] at hopen; exact nomatch hopen⟩
  exact splitFrom_word hspaced nofun

/-- Words with single blanks between them are the tokens of their line. -/
lemma split_spellApart (hw : w.Complete) (hws : ∀ v ∈ ws, Word.Complete v) :
    split (spellApart w ws) = (w :: ws).map Word.token := by
  induction ws generalizing w with
  | nil =>
    have hspaced : Spaced.WellFormed (w, []) := ⟨hw.1, List.forall_mem_nil _, fun _ => rfl⟩
    have hword : splitFrom .between (w.spelling ++ ([] ++ [])) = [w.token] :=
      splitFrom_word hspaced fun _ => rfl
    rwa [List.append_nil] at hword
  | cons v ws ih =>
    obtain ⟨hv, hws⟩ := List.forall_mem_cons.1 hws
    rw [split, spellApart, List.flatMap_cons, List.cons_append, splitFrom_complete hw]
    exact congrArg (w.token :: ·) (ih hv hws)

/-- A text that neither begins nor ends with a blank is trimmed. -/
lemma trim_of_ends {cs : List Char} (hfirst : ∀ c ∈ cs.head?, Text.isBlank c = false)
    (hlast : ∀ c ∈ cs.getLast?, Text.isBlank c = false) : Chars.trim cs = cs := by
  have hdrop : ([] ++ cs).dropWhile Text.isBlank = cs :=
    (Chars.takeWhile_run (List.forall_mem_nil _) hfirst).2
  have hend : Chars.dropEnd Text.isBlank (cs ++ []) = cs :=
    dropEnd_of_getLast hlast (List.forall_mem_nil _)
  rw [List.nil_append] at hdrop
  rw [Chars.trim, hdrop]
  rwa [List.append_nil] at hend

/-- A word begins with no blank. -/
lemma Word.Complete.head (hw : w.Complete) (rest : List Char) :
    ∀ c ∈ (w.spelling ++ rest).head?, Text.isBlank c = false := by
  rcases w with _ | ⟨s, w⟩
  · exact absurd rfl hw.1.ne_nil
  · obtain ⟨c, cs, hspelling, -, hblank⟩ := (hw.1.segments s List.mem_cons_self).head
    simp [hspelling, hblank]

/-- Words with single blanks between them end with no blank. -/
lemma spellApart_last (hw : w.Complete) (hws : ∀ v ∈ ws, Word.Complete v) :
    ∃ c, (spellApart w ws).getLast? = some c ∧ Text.isBlank c = false := by
  induction ws generalizing w with
  | nil =>
    have hne : w.spelling ≠ [] := by
      intro hnil
      have hapart : Apart [(w, [])] :=
        ⟨List.forall_mem_singleton.2 ⟨hw.1, List.forall_mem_nil _, fun _ => rfl⟩,
          List.isChain_singleton _⟩
      exact hapart.spellAll_ne_nil (by simp [spellAll, hnil])
    rw [spellApart, List.flatMap_nil, List.append_nil]
    exact ⟨_, List.getLast?_eq_some_getLast hne,
      hw.1.last hw.2 _ (List.getLast?_eq_some_getLast hne)⟩
  | cons v ws ih =>
    obtain ⟨hv, hws⟩ := List.forall_mem_cons.1 hws
    obtain ⟨c, hlast, hblank⟩ := ih hv hws
    have hline : spellApart w (v :: ws) = (w.spelling ++ [' ']) ++ spellApart v ws := by
      simp [spellApart]
    exact ⟨c, by rw [hline, List.getLast?_append, hlast, Option.some_or], hblank⟩

/-- A line of words with single blanks between them is trimmed. -/
lemma trim_spellApart (hw : w.Complete) (hws : ∀ v ∈ ws, Word.Complete v) :
    Chars.trim (spellApart w ws) = spellApart w ws := by
  obtain ⟨c, hlast, hblank⟩ := spellApart_last hw hws
  refine trim_of_ends (hw.head _) fun d hd => ?_
  rw [hlast] at hd
  rwa [← Option.some.inj hd]

/-- A bare word: plain characters, at least one. -/
lemma Word.complete_plain {cs : List Char} (hne : cs ≠ []) (hplain : ∀ c ∈ cs, isPlain c = true) :
    Word.Complete [.plain cs] :=
  ⟨⟨⟨List.forall_mem_singleton.2 ⟨hne, hplain⟩, List.isChain_singleton _⟩, List.cons_ne_nil _ _⟩, rfl⟩

/-- A text in quotes that does not hold them. -/
lemma Word.complete_quoted {cs : List Char} (h : '"' ∉ cs) :
    Word.Complete [.quoted '"' cs true] :=
  ⟨⟨⟨List.forall_mem_singleton.2 ⟨rfl, h⟩, List.isChain_singleton _⟩, List.cons_ne_nil _ _⟩, rfl⟩

/-- The token of a bare word. -/
@[simp] lemma Word.token_plain (cs : List Char) : Word.token [.plain cs] = ⟨cs, false⟩ := by
  simp [Word.token, Word.content, Segment.content, Word.isQuoted, Segment.isQuoted]

/-- The token of a text in quotes. -/
@[simp] lemma Word.token_quoted (mark : Char) (cs : List Char) (closed : Bool) :
    Word.token [.quoted mark cs closed] = ⟨cs, true⟩ := by
  simp [Word.token, Word.content, Segment.content, Word.isQuoted, Segment.isQuoted]

end Token

namespace Command

open Token (IsKeyword isPlain)

/-! ## Lines that create records -/

/-- A title that can stand in double quotes: not blank, without quotes and on one line. -/
structure Title where
  text : String
  shown : ∃ c ∈ text.toList, Text.isBlank c = false
  unquoted : ∀ c ∈ text.toList, Token.isQuote c = false
  oneLine : '\n' ∉ text.toList

/-- A flag as it is typed, without quotes and blanks: `--key=value` if it is dashed, or else
`key:value`. -/
structure TypedFlag where
  key : String
  value : String
  dashed : Bool
  keyword : IsKeyword key.toList
  plain : ∀ c ∈ value.toList, isPlain c = true
  given : dashed = false → value.toList ≠ []

/-- A flag as it stands in a line. -/
def TypedFlag.text (f : TypedFlag) : String :=
  if f.dashed then "--" ++ f.key ++ "=" ++ f.value else f.key ++ ":" ++ f.value

/-- A line that creates a record: a verb, a word for its kind, its title in quotes, and flags. -/
def creationLine (verb word : String) (title : Title) (flags : List TypedFlag) : String :=
  Text.join " " (verb :: word :: ("\"" ++ title.text ++ "\"") :: flags.map TypedFlag.text)

/-- Commands that differ in their lines alone. -/
structure SaysSame (c c' : Command) : Prop where
  verb : c.verb = c'.verb
  entity : c.entity = c'.entity
  target : c.target = c'.target
  flags : c.flags = c'.flags

variable {verb word : String} {title : Title} {flags : List TypedFlag}

/-- The double quote is not in a title. -/
lemma Title.quote_notMem (title : Title) : '"' ∉ title.text.toList :=
  fun hmem => nomatch title.unquoted _ hmem

/-- A title is not empty. -/
lemma Title.ne_nil (title : Title) : title.text.toList ≠ [] := by
  obtain ⟨c, hc, -⟩ := title.shown
  exact List.ne_nil_of_mem hc

/-- The characters of a flag. -/
lemma TypedFlag.toList_text (f : TypedFlag) : f.text.toList =
    if f.dashed then '-' :: '-' :: f.key.toList ++ '=' :: f.value.toList
    else f.key.toList ++ ':' :: f.value.toList := by
  unfold TypedFlag.text
  split <;> simp

/-- A flag is a bare word. -/
lemma TypedFlag.complete (f : TypedFlag) : Token.Word.Complete [.plain f.text.toList] := by
  have hkey : ∀ c ∈ f.key.toList, isPlain c = true := fun c hc => isPlain_of_isKey (f.keyword.2 c hc)
  rw [f.toList_text]
  split
  · refine Token.Word.complete_plain (List.cons_ne_nil _ _) fun c hc => ?_
    simp only [List.cons_append, List.mem_cons, List.mem_append] at hc
    rcases hc with rfl | rfl | hc | rfl | hc
    · decide
    · decide
    · exact hkey c hc
    · decide
    · exact f.plain c hc
  · refine Token.Word.complete_plain (by simp) fun c hc => ?_
    simp only [List.mem_append, List.mem_cons] at hc
    rcases hc with hc | rfl | hc
    · exact hkey c hc
    · decide
    · exact f.plain c hc

/-- A flag sets its key to its value. -/
lemma TypedFlag.plays (f : TypedFlag) :
    Token.Word.Plays [.plain f.text.toList] (.setting f.key f.value) := by
  have hcontent : Token.Word.content [.plain f.text.toList] = f.text.toList := by
    simp [Token.Word.content, Token.Segment.content]
  have hsetting : Token.Word.Plays [.plain f.text.toList]
      (.setting (String.ofList f.key.toList) (String.ofList f.value.toList)) := by
    cases hdashed : f.dashed with
    | true =>
      refine .flag rfl (.long (f.key.toList ++ '=' :: f.value.toList) ?_ ⟨f.keyword, .inl rfl⟩)
      rw [hcontent, f.toList_text, hdashed]
      rfl
    | false =>
      have htext : f.text.toList = f.key.toList ++ ':' :: f.value.toList := by
        rw [f.toList_text, hdashed]
        rfl
      refine .pair rfl (fun k v => ?_) ⟨f.keyword, f.given hdashed, ?_⟩
      · rw [hcontent, htext]
        exact not_flagForm_of_colon f.keyword.2
      · rw [hcontent, htext]
  simpa using hsetting

/-- A word that begins a command: bare and positional. -/
structure IsBare (word : String) : Prop where
  ne_nil : word.toList ≠ []
  plain : ∀ c ∈ word.toList, isPlain c = true
  positional : Role.ofToken ⟨word.toList, false⟩ = .positional word

instance (word : String) : Decidable (IsBare word) :=
  decidable_of_iff (word.toList ≠ [] ∧ word.toList.all isPlain = true ∧
      Role.ofToken ⟨word.toList, false⟩ = .positional word)
    ⟨fun ⟨hne, hplain, hrole⟩ => ⟨hne, List.all_eq_true.1 hplain, hrole⟩,
      fun h => ⟨h.ne_nil, List.all_eq_true.2 h.plain, h.positional⟩⟩

/-- A bare word ends before the line does. -/
lemma IsBare.complete (h : IsBare word) : Token.Word.Complete [.plain word.toList] :=
  Token.Word.complete_plain h.ne_nil h.plain

/-- The words behind the verb in a line that creates a record. -/
def creationWords (word : String) (title : Title) (flags : List TypedFlag) : List Token.Word :=
  [.plain word.toList] :: [.quoted '"' title.text.toList true] ::
    flags.map fun f => [.plain f.text.toList]

/-- They end before the line does. -/
lemma creationWords_complete (h : IsBare word) (title : Title) (flags : List TypedFlag) :
    ∀ w ∈ creationWords word title flags, Token.Word.Complete w := by
  refine List.forall_mem_cons.2 ⟨h.complete, List.forall_mem_cons.2
    ⟨Token.Word.complete_quoted title.quote_notMem, ?_⟩⟩
  intro w hw
  obtain ⟨f, -, rfl⟩ := List.mem_map.1 hw
  exact f.complete

/-- The words of a line that creates a record. -/
lemma toList_creationLine (verb word : String) (title : Title) (flags : List TypedFlag) :
    (creationLine verb word title flags).toList =
      Token.spellApart [.plain verb.toList] (creationWords word title flags) := by
  rw [creationLine, Text.toList_join]
  simp [Token.spellApart, creationWords, Token.Word.spelling, Token.Segment.spelling,
    List.flatMap_map]

/-- What the words of a line that creates a record are for. -/
lemma roles_creationLine (hverb : IsBare verb) (hword : IsBare word) (title : Title)
    (flags : List TypedFlag) :
    (Token.split (Chars.trim (creationLine verb word title flags).toList)).map Role.ofToken =
      .positional verb :: .positional word :: .positional title.text ::
        flags.map fun f => .setting f.key f.value := by
  have htitle : Role.ofToken ⟨title.text.toList, true⟩ = .positional title.text := by
    simp [Role.ofToken, Token.setting?]
  have hflag (f : TypedFlag) : Role.ofToken ⟨f.text.toList, false⟩ = .setting f.key f.value := by
    rw [← Token.Word.token_plain]
    exact (Token.Word.plays_iff.1 f.plays).symm
  have hcomplete := creationWords_complete hword title flags
  rw [toList_creationLine, Token.trim_spellApart hverb.complete hcomplete,
    Token.split_spellApart hverb.complete hcomplete]
  simp [creationWords, hverb.positional, hword.positional, htitle, hflag]

/-- **The command that a line which creates a record spells.** -/
theorem ofLine_creationLine (hverb : IsBare verb) (hword : IsBare word) (title : Title)
    (flags : List TypedFlag) :
    ofLine (creationLine verb word title flags) =
      { verb := some verb, entity := some word, target := some title.text,
        flags := .ofPairs (flags.map fun f => (f.key, f.value)),
        raw := creationLine verb word title flags } := by
  have hroles := roles_creationLine hverb hword title flags
  have hwords : positionals (Token.split (Chars.trim (creationLine verb word title flags).toList)) =
      [verb, word, title.text] := by
    rw [← filterMap_word?, hroles]
    simp [Role.word?, Function.comp_def]
  have hflags : flagsOf (Token.split (Chars.trim (creationLine verb word title flags).toList)) =
      .ofPairs (flags.map fun f => (f.key, f.value)) := by
    rw [← ofPairs_filterMap_setting?, hroles]
    simp [List.filterMap_cons, Role.setting?, Function.comp_def]
  simp only [ofLine, hwords, hflags]
  rfl

/-- What follows the word for a kind of records. -/
def titleAndFlags (title : Title) (flags : List TypedFlag) : List Char :=
  '"' :: title.text.toList ++ '"' :: flags.flatMap fun f => ' ' :: f.text.toList

/-- A line that creates a record, cut behind the first two words. -/
lemma toList_creationLine_eq (verb word : String) (title : Title) (flags : List TypedFlag) :
    (creationLine verb word title flags).toList =
      verb.toList ++ ' ' :: (word.toList ++ ' ' :: titleAndFlags title flags) := by
  simp [creationLine, Text.toList_join, titleAndFlags, List.flatMap_map]

/-- Flags hold no quotes and no line ends. -/
lemma notMem_flags (flags : List TypedFlag) {c : Char} (hc : c = '"' ∨ c = '\n') :
    c ∉ flags.flatMap fun f => ' ' :: f.text.toList := by
  rw [List.mem_flatMap]
  rintro ⟨f, -, hmem⟩
  rcases List.mem_cons.1 hmem with rfl | hmem
  · simp at hc
  · have hplain : isPlain c = true := (f.complete.1.segments _ List.mem_cons_self).2 c hmem
    rcases hc with rfl | rfl <;> exact nomatch hplain

end Command

/-! ## Shortcuts -/

namespace Shortcut

open Command (Title TypedFlag IsBare creationLine titleAndFlags)

variable {head verb word name : String} {title : Title} {flags : List TypedFlag}

/-- A bare word has no blanks. -/
lemma not_blank_of_isBare (h : IsBare word) : ∀ c ∈ word.toList, Text.isBlank c = false :=
  fun c hc => Token.isBlank_of_isPlain (h.plain c hc)

/-- What follows the verb begins with no blank. -/
lemma not_blank_of_head {cs : List Char} (h : IsBare word) :
    ∀ c ∈ (word.toList ++ cs).head?, Text.isBlank c = false :=
  Chars.forall_head_append h.ne_nil (not_blank_of_isBare h) cs

/-- A line that creates a record is trimmed. -/
lemma trim_creationLine (hverb : IsBare verb) (hword : IsBare word) (title : Title)
    (flags : List TypedFlag) :
    Chars.trim (creationLine verb word title flags).toList =
      (creationLine verb word title flags).toList := by
  rw [Command.toList_creationLine]
  exact Token.trim_spellApart hverb.complete (Command.creationWords_complete hword title flags)

/-- A line that creates a record and whose verb heads no shortcut stays as it is. -/
theorem expand_creationLine (hverb : IsBare verb) (hword : IsBare word)
    (h : isKeyword headings verb.toList = false) :
    expand [] (creationLine verb word title flags) = creationLine verb word title flags := by
  have hbuiltin : builtin? (creationLine verb word title flags).toList = none := by
    rw [Command.toList_creationLine_eq]
    exact builtin?_of_heading (not_blank_of_isBare hverb) (not_blank_of_head hword) h
  simp [expand, trim_creationLine hverb hword, hbuiltin, Entries.value?]

/-- A line that creates a record and whose verb heads the shortcut for that is rewritten: the rest
of the line behind the word for a kind becomes the title, less a pair of quotes around it. -/
theorem expand_heading (hhead : IsBare head) (hword : IsBare word)
    (h : isKeyword ["install", "add"] head.toList = true)
    (hkind : lookup? creations word.toList = some name) :
    expand [] (creationLine head word title flags) =
      "create " ++ name ++ " \"" ++ String.ofList (unquote (titleAndFlags title flags)) ++ "\"" := by
  have hline : '\n' ∉ titleAndFlags title flags := by
    have hflags := Command.notMem_flags flags (.inr rfl)
    simp [titleAndFlags, title.oneLine, hflags]
  have hfirst : takeWord (head.toList ++ ' ' :: (word.toList ++ ' ' :: titleAndFlags title flags)) =
      (head.toList, word.toList ++ ' ' :: titleAndFlags title flags) :=
    takeWord_append (not_blank_of_isBare hhead) (not_blank_of_head hword)
  have hsecond : takeWord (word.toList ++ ' ' :: titleAndFlags title flags) =
      (word.toList, titleAndFlags title flags) :=
    takeWord_append (not_blank_of_isBare hword) (by simp [titleAndFlags, Text.isBlank])
  have hgiven : titleAndFlags title flags ≠ [] := List.cons_ne_nil _ _
  have hstands : Stands (creationLine head word title flags).toList
      (createLine name (String.ofList (unquote (titleAndFlags title flags)))) := by
    rw [Command.toList_creationLine_eq]
    exact .creation hfirst hsecond h hkind hgiven hline
  simp [expand, trim_creationLine hhead hword, hstands.builtin?_eq, Entries.value?, createLine]

/-- A title in quotes that ends the line loses them. -/
lemma unquote_title (title : Title) : unquote (titleAndFlags title []) = title.text.toList := by
  simp [unquote, titleAndFlags, Token.isQuote, title.ne_nil]

/-- A title with flags behind it keeps its quotes. -/
lemma unquote_titleAndFlags (title : Title) (h : flags ≠ []) :
    unquote (titleAndFlags title flags) = titleAndFlags title flags := by
  obtain ⟨flags, f, rfl⟩ := (List.eq_nil_or_concat flags).resolve_left h
  have hrun : f.text.toList ≠ [] ∧ ∀ c ∈ f.text.toList, Token.isPlain c = true :=
    f.complete.1.segments _ List.mem_cons_self
  have hlast : ¬ (titleAndFlags title (flags.concat f)).tail.getLast? = some '"' := by
    have hplain := hrun.2 _ (List.getLast_mem hrun.1)
    have hquote : f.text.toList.getLast hrun.1 ≠ '"' := fun hquote => by
      rw [hquote] at hplain
      exact nomatch hplain
    simpa [titleAndFlags, List.getLast?_append, List.getLast?_cons,
      List.getLast?_eq_some_getLast hrun.1] using hquote
  exact if_neg fun hends => hlast (beq_iff_eq.1 (Bool.and_eq_true_iff.1 hends).2)

end Shortcut

/-! ## The command that is read -/

/-- The first token behind two quotes that close at once, where a title, a quote and flags come next:
the title up to its first blank, or the title and the flags.

**Proof sketch.** The two quotes make an empty span, so that the token is positional and the title
stands outside of quotes. If it holds a blank the token ends there; else the quote behind it opens a
span, which lasts to the end. -/
lemma Token.exists_token_of_requoted {cs tail : List Char}
    (hcs : ∀ c ∈ cs, Token.isQuote c = false) (htail : '"' ∉ tail) (hne : tail ≠ []) :
    ∃ text tokens, text ≠ cs ∧
      splitFrom .between ('"' :: '"' :: (cs ++ '"' :: (tail ++ ['"']))) = ⟨text, true⟩ :: tokens := by
  have hopen : ∀ rest, splitFrom .between ('"' :: '"' :: rest) = splitFrom (.plain true []) rest :=
    fun rest => rfl
  have hrun : ∀ c ∈ cs.takeWhile fun c => !Text.isBlank c, isPlain c = true := by
    intro c hc
    have hblank := List.mem_takeWhile_imp hc
    simp [isPlain, hcs c ((List.takeWhile_sublist _).subset hc), hblank]
  rw [hopen]
  cases hrest : cs.dropWhile fun c => !Text.isBlank c with
  | nil =>
    have hall : cs.takeWhile (fun c => !Text.isBlank c) = cs := by
      have hsplit := List.takeWhile_append_dropWhile (p := fun c => !Text.isBlank c) (l := cs)
      rwa [hrest, List.append_nil] at hsplit
    rw [hall] at hrun
    refine ⟨cs ++ tail, [], by simpa using hne, ?_⟩
    have hspan : splitFrom (.plain true cs.reverse) ('"' :: (tail ++ ['"'])) =
        splitFrom (.span '"' true cs.reverse) (tail ++ ['"']) := rfl
    rw [splitFrom_run hrun, List.append_nil, hspan, splitFrom_span htail]
    simp [splitFrom]
  | cons b rest =>
    have hsplit : cs = cs.takeWhile (fun c => !Text.isBlank c) ++ b :: rest := by
      rw [← hrest, List.takeWhile_append_dropWhile]
    have hblank : Text.isBlank b = true := by
      simpa using Chars.head_dropWhile (fun c => !Text.isBlank c) cs b (by rw [hrest]; rfl)
    refine ⟨cs.takeWhile fun c => !Text.isBlank c,
      splitFrom .between (rest ++ '"' :: (tail ++ ['"'])), ?_, ?_⟩
    · intro hsame
      rw [hsame] at hsplit
      simp at hsplit
    · have hend : splitFrom (.plain true (cs.takeWhile fun c => !Text.isBlank c).reverse)
          (b :: (rest ++ '"' :: (tail ++ ['"']))) =
          ⟨cs.takeWhile fun c => !Text.isBlank c, true⟩ ::
            splitFrom .between (rest ++ '"' :: (tail ++ ['"'])) := by
        rw [splitFrom, isQuote_of_isBlank hblank, hblank]
        simp
      have hline : cs ++ '"' :: (tail ++ ['"']) =
          cs.takeWhile (fun c => !Text.isBlank c) ++ (b :: (rest ++ '"' :: (tail ++ ['"']))) := by
        conv_lhs => rw [hsplit]
        simp
      rw [hline, splitFrom_run hrun, List.append_nil, hend]

namespace Command

variable {head verb word name : String} {title : Title} {flags : List TypedFlag}

/-- A title that is quoted again with flags behind it is not read as it was. -/
lemma target_requoted (hname : IsBare name) (title : Title) (h : flags ≠ []) :
    (ofLine ("create " ++ name ++ " \"" ++ String.ofList (titleAndFlags title flags) ++
      "\"")).target ≠ some title.text := by
  have htail : (flags.flatMap fun f => ' ' :: f.text.toList) ≠ [] := by
    obtain ⟨f, rest, rfl⟩ := List.exists_cons_of_ne_nil h
    exact nofun
  obtain ⟨text, tokens, htext, htokens⟩ :=
    Token.exists_token_of_requoted title.unquoted (notMem_flags flags (.inl rfl)) htail
  have hline : ("create " ++ name ++ " \"" ++ String.ofList (titleAndFlags title flags) ++
      "\"").toList = Token.Word.spelling [.plain "create".toList] ++ ' ' ::
        (Token.Word.spelling [.plain name.toList] ++ ' ' :: '"' :: '"' ::
          (title.text.toList ++ '"' ::
            ((flags.flatMap fun f => ' ' :: f.text.toList) ++ ['"']))) := by
    simp [titleAndFlags, Token.Word.spelling, Token.Segment.spelling]
  have hcreate : IsBare "create" := by decide
  have hwords : positionals (Token.split (Chars.trim ("create " ++ name ++ " \"" ++
      String.ofList (titleAndFlags title flags) ++ "\"").toList)) =
      "create" :: name :: String.ofList text :: positionals tokens := by
    have hquoted : Role.ofToken ⟨text, true⟩ = .positional (String.ofList text) := rfl
    have hlast : ∀ c ∈ ("create " ++ name ++ " \"" ++ String.ofList (titleAndFlags title flags) ++
        "\"").toList.getLast?, Text.isBlank c = false := by
      rw [String.toList_append, List.getLast?_append]
      exact fun c hc => by rw [← Option.some.inj hc]; decide
    rw [Token.trim_of_ends (by rw [hline]; exact hcreate.complete.head _) hlast, hline, Token.split,
      Token.splitFrom_complete hcreate.complete, Token.splitFrom_complete hname.complete, htokens,
      ← filterMap_word?, ← filterMap_word?]
    simp only [List.map_cons, Token.Word.token_plain, hcreate.positional, hname.positional, hquoted,
      List.filterMap_cons, Role.word?]
  intro htarget
  simp only [ofLine, hwords] at htarget
  exact htext (by simpa using congrArg (Option.map String.toList) htarget)

/-- Every word for a kind of records that heads a creation stands for that kind. -/
lemma exists_kind_of_creation : ∀ word ∈ Shortcut.creations.flatMap Prod.fst,
    ∃ kind ∈ Entity.all, Shortcut.lookup? Shortcut.creations word.toList = some kind.name ∧
      Vocabulary.entity word = kind.name ∧ Vocabulary.entity kind.name = kind.name ∧
      IsBare word ∧ IsBare kind.name := by
  decide +kernel

/-- **`add` and `install` agree with `new` and `create` just if no flags follow the title.** The line
of `new` or `create` is always read as it is written: kind, title and flags.

**Proof sketch.** A line of `new` or `create` is no shortcut, and its words are read one by one. One
of `add` or `install` is rewritten. Without flags the title loses its quotes and gets new ones, which
gives the line of `create`; with flags the third word is not the title. -/
theorem heading_agrees_iff (hhead : head ∈ ["add", "install"]) (hverb : verb ∈ ["new", "create"])
    (hword : word ∈ Shortcut.creations.flatMap Prod.fst) (title : Title)
    (flags : List TypedFlag) :
    (∃ kind : Entity, SaysSame (parse [] (creationLine verb word title flags))
      { verb := some "create", entity := some kind.name, target := some title.text,
        flags := .ofPairs (flags.map fun f => (f.key, f.value)) }) ∧
    (SaysSame (parse [] (creationLine head word title flags))
      (parse [] (creationLine verb word title flags)) ↔ flags = []) := by
  obtain ⟨kind, -, hlookup, hentity, hkind, hbare, hname⟩ := exists_kind_of_creation word hword
  have hheads : ∀ s ∈ ["add", "install"], IsBare s ∧
      Shortcut.isKeyword ["install", "add"] s.toList = true := by decide
  have hverbs : ∀ s ∈ ["new", "create"], IsBare s ∧ Vocabulary.verb s = "create" ∧
      Shortcut.isKeyword Shortcut.headings s.toList = false := by decide +kernel
  obtain ⟨hheadBare, hheadKeyword⟩ := hheads head hhead
  obtain ⟨hverbBare, hcreate, hverbKeyword⟩ := hverbs verb hverb
  have hplain : parse [] (creationLine verb word title flags) =
      { verb := some "create", entity := some kind.name, target := some title.text,
        flags := .ofPairs (flags.map fun f => (f.key, f.value)),
        raw := creationLine verb word title flags } := by
    rw [parse, Shortcut.expand_creationLine hverbBare hbare hverbKeyword,
      ofLine_creationLine hverbBare hbare]
    simp [normalize, hcreate, hentity]
  refine ⟨⟨kind, ?_⟩, fun hsame => ?_, ?_⟩
  · rw [hplain]
    exact ⟨rfl, rfl, rfl, rfl⟩
  · by_contra hflags
    have htarget := hsame.target
    rw [hplain, parse, Shortcut.expand_heading hheadBare hbare hheadKeyword hlookup,
      Shortcut.unquote_titleAndFlags title hflags] at htarget
    exact target_requoted hname title hflags htarget
  · rintro rfl
    have hline : "create " ++ kind.name ++ " \"" ++
        String.ofList (Shortcut.unquote (titleAndFlags title [])) ++ "\"" =
        creationLine "create" kind.name title [] := by
      rw [Shortcut.unquote_title, ← String.toList_inj]
      simp [toList_creationLine_eq, titleAndFlags]
    have hcreateBare : IsBare "create" := by decide
    rw [hplain, parse, Shortcut.expand_heading hheadBare hbare hheadKeyword hlookup, hline,
      ofLine_creationLine hcreateBare hname]
    have hverb : Vocabulary.verb "create" = "create" := by decide +kernel
    exact ⟨by simp [normalize, hverb], by simp [normalize, hkind], rfl, rfl⟩

/-- A title of two words. -/
def planTitle : Title :=
  { text := "My plan"
    shown := ⟨'M', by decide, by decide⟩
    unquoted := by simp [Token.isQuote]
    oneLine := by decide }

/-- A flag for the priority. -/
def highPriority : TypedFlag :=
  { key := "priority"
    value := "high"
    dashed := false
    keyword := ⟨by decide, List.all_eq_true.1 (by decide)⟩
    plain := List.all_eq_true.1 (by decide)
    given := by decide }

/-- The agreement at such a title, without the flag and with it. -/
theorem heading_agrees_iff_plan :
    "add" ∈ ["add", "install"] ∧ "new" ∈ ["new", "create"] ∧
    "prg" ∈ Shortcut.creations.flatMap Prod.fst ∧
    SaysSame (parse [] "add prg \"My plan\"") (parse [] "new prg \"My plan\"") ∧
    ¬ SaysSame (parse [] "add prg \"My plan\" priority:high")
      (parse [] "new prg \"My plan\" priority:high") := by
  have hhead : "add" ∈ ["add", "install"] := by decide
  have hverb : "new" ∈ ["new", "create"] := by decide
  have hword : "prg" ∈ Shortcut.creations.flatMap Prod.fst := by decide
  have hbare : ∀ s : String,
      creationLine s "prg" planTitle [] = s ++ " " ++ ("prg" ++ " " ++ "\"My plan\"") :=
    fun _ => rfl
  have hflag : ∀ s : String, creationLine s "prg" planTitle [highPriority] =
      s ++ " " ++ ("prg" ++ " " ++ ("\"My plan\"" ++ " " ++ "priority:high")) :=
    fun _ => rfl
  have hsame := (heading_agrees_iff hhead hverb hword planTitle []).2.2 rfl
  have hother := mt (heading_agrees_iff hhead hverb hword planTitle [highPriority]).2.1
    (List.cons_ne_nil _ _)
  rw [hbare, hbare] at hsame
  rw [hflag, hflag] at hother
  exact ⟨hhead, hverb, hword, hsame, hother⟩

/-- With a flag behind it the title is cut at its blank, and the flag is lost. -/
theorem add_drops_flags :
    ¬ SaysSame (parse [] "add program \"My plan\" priority:high")
      (parse [] "new program \"My plan\" priority:high") ∧
    (parse [] "add program \"My plan\" priority:high").target = some "My" ∧
    (parse [] "add program \"My plan\" priority:high").flags = [] ∧
    (parse [] "new program \"My plan\" priority:high").target = some "My plan" ∧
    (parse [] "new program \"My plan\" priority:high").flags = [("priority", "high")] :=
  ⟨fun h => absurd h.target (by decide +kernel), by decide +kernel⟩

end Command

end TaskShell
