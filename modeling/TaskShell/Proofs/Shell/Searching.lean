import TaskShell.Proofs.Shell.Selecting
import TaskShell.Proofs.Shell.Spoken

/-!
# What a search finds

A search compares texts in lower case, each made on its own. The form of a sigma in lower case depends
on its neighbours, so that a text which holds the query may have a lower case which does not hold that
of the query. A query whose sigmas are all decided within it is found wherever it stands; any other is
missed in some title.

## Main definitions

* `Command.searchLine` — a line that searches for a text.
* `Record.Holds` — the title or the description of a record holds a text as it stands.

## Main results

* `Shell.perform_searchLine` — what such a line reports.
* `Shell.search_finds` — the queries that are found wherever they stand.
* `Shell.search_misses` — a query that is not.
-/

set_option autoImplicit false

namespace TaskShell

/-- The title or the description of a record is a text that holds another as it stands. -/
def Record.Holds (r : Record) (query : String) : Prop :=
  ∃ name ∈ ["title", "description"], ∃ text, r.fields.value? name = some (.text text) ∧
    query.toList <:+: text.toList

/-- What is held as it stands is mentioned, if its sigmas are decided within it. -/
lemma Record.Holds.mentions {r : Record} {query : String} (h : r.Holds query) (hne : query ≠ "")
    (hsettled : Chars.Settled query.toList) : r.Mentions query := by
  obtain ⟨name, hname, text, hvalue, front, back, htext⟩ := h
  refine ⟨name, hname, .text text, hvalue, ?_, ?_⟩
  · have hgiven : text ≠ "" := by
      rintro rfl
      have hnil := List.append_eq_nil_iff.1 htext
      exact hne (String.toList_eq_nil_iff.1 (List.append_eq_nil_iff.1 hnil.1).2)
    simpa [Value.isGiven] using hgiven
  · change Chars.lower query.toList <:+: Chars.lower text.toList
    rw [← htext]
    exact hsettled.infix_lower front back

/-! ## Lines that search -/

namespace Command

open Token (Word)

variable {word query line : String}

/-- A line that searches for a text among the records of a kind. -/
def searchLine (word query : String) : String :=
  "search " ++ word ++ " \"" ++ query ++ "\""

/-- The words of a line that searches. -/
lemma toList_searchLine (word query : String) : (searchLine word query).toList =
    Token.spellApart [.plain "search".toList]
      [[.plain word.toList], [.quoted '"' query.toList true]] := by
  simp [searchLine, Token.spellApart, Word.spelling, Token.Segment.spelling]

/-- They end before the line does. -/
lemma complete_searchLine (hword : IsBare word) (hquote : '"' ∉ query.toList) :
    Word.Complete [.plain "search".toList] ∧
      ∀ v ∈ [[Token.Segment.plain word.toList], [.quoted '"' query.toList true]],
        Word.Complete v := by
  have hsearch : IsBare "search" := by decide
  refine ⟨hsearch.complete, List.forall_mem_cons.2 ⟨hword.complete, List.forall_mem_singleton.2 ?_⟩⟩
  exact Word.complete_quoted hquote

/-- The command that a line which searches spells. -/
lemma ofLine_searchLine (hword : IsBare word) (hquote : '"' ∉ query.toList) :
    ofLine (searchLine word query) =
      { verb := some "search", entity := some word, target := some query,
        raw := searchLine word query } := by
  obtain ⟨hsearch, hrest⟩ := complete_searchLine hword hquote
  have hverb : Role.ofToken ⟨"search".toList, false⟩ = .positional "search" := by decide
  have htarget : Role.ofToken ⟨query.toList, true⟩ = .positional query := by
    simp [Role.ofToken, Token.setting?]
  rw [ofLine_spellApart hsearch hrest (toList_searchLine word query), List.map_cons, List.map_cons,
    List.map_singleton, Word.token_plain, Word.token_plain, Word.token_quoted, hverb,
    hword.positional, htarget]
  rfl

/-- A line that searches is trimmed. -/
lemma trim_searchLine (hword : IsBare word) (hquote : '"' ∉ query.toList) :
    Text.trim (searchLine word query) = searchLine word query := by
  obtain ⟨hsearch, hrest⟩ := complete_searchLine hword hquote
  exact trim_of_spellApart hsearch hrest (toList_searchLine word query)

/-- A line that searches is not expanded, if no alias stands for it. -/
lemma parse_searchLine {aliases : Entries String} (hword : IsBare word)
    (hquote : '"' ∉ query.toList)
    (halias : Shortcut.Unaliased aliases (searchLine word query)) :
    parse aliases (searchLine word query) = (ofLine (searchLine word query)).normalize := by
  have hline : (searchLine word query).toList =
      "search".toList ++ ' ' :: (word.toList ++ (" \"" ++ query ++ "\"").toList) := by
    simp [searchLine]
  have hsearch : IsBare "search" := by decide
  have hexpand := Shortcut.expand_of_heading (trim_searchLine hword hquote) halias hline
    (Shortcut.not_blank_of_isBare hsearch) (Shortcut.not_blank_of_head hword) (by decide)
  rw [parse, hexpand]

/-- A search for a text among the records of a kind breaks no rule. -/
lemma problem?_search {c : Command} {kind : Entity} (hverb : c.verb = some "search")
    (hentity : c.entity = some kind.name) (hflags : c.flags = []) : c.problem? = none := by
  have hflag : ∀ name, c.flagValue? name = none := by
    intro name
    rw [flagValue?, hflags]
    rfl
  refine problem?_of_known hverb (by decide) hentity ?_ ?_ ?_
  · unfold targetProblem?
    rw [hverb]
    rfl
  · unfold choiceProblem?
    rw [hflag]
  · unfold choiceProblem?
    rw [hflag]

end Command

/-! ## Searches -/

namespace Shell

open Command (IsBare searchLine)

variable {w : World} {aliases : Entries String} {word query : String} {kind : Entity}

/-- What a selection without limit offers. -/
lemma mem_matching {c : Command} {r : Record} (hne : query ≠ "") :
    r ∈ matching w c kind (some query) ↔
      r ∈ w.store.records ∧ r.kind = kind ∧ r.Mentions query ∧ c.Wants r := by
  unfold matching keeps
  rw [List.mem_filter, List.mem_filter, Store.list_all, List.mem_mergeSort, List.mem_filter,
    beq_iff_eq, Filter.contains_iff hne, Filter.admits_iff, and_assoc, and_assoc]

/-- A line that searches reports the records of its kind that mention the query. -/
theorem perform_searchLine (htrim : Text.trim query = query) (hne : query ≠ "")
    (hquote : '"' ∉ query.toList) (hword : IsBare word) (hkind : Vocabulary.entity word = kind.name)
    (halias : Shortcut.Unaliased aliases (searchLine word query)) (hcalls : w.CanList) :
    ∃ printed, (∀ r, r ∈ printed ↔ r ∈ w.store.records ∧ r.kind = kind ∧ r.Mentions query) ∧
      (run aliases (searchLine word query)).perform w =
        (.ok .finished, reported { w with session := w.session.remember (searchLine word query) }
          kind (some query) [("query", .text query)] printed) := by
  have hline := Command.ofLine_searchLine hword hquote
  have hparse := Command.parse_searchLine hword hquote halias
  obtain ⟨c, hc⟩ : ∃ c, c = Command.ofLine (searchLine word query) := ⟨_, rfl⟩
  rw [← hc] at hline hparse
  have hverb : c.normalize.verb = some "search" := by
    rw [hline]
    exact congrArg some (by decide +kernel)
  have hentity : c.normalize.entity = some kind.name := by
    rw [hline, ← hkind]
    rfl
  have hqueried : queryOf c = query := by
    rw [hline, queryOf, Command.nonEmpty?_eq_some.2 ⟨rfl, hne⟩]
    exact htrim
  have hasks : c.Asks (some query) := by
    rw [← hqueried]
    exact .search hverb
  have hlimit : c.HasLimit none := by
    rw [hline]
    rfl
  have hflags : c.normalize.flags = [] := by
    rw [hline]
    rfl
  have hblank : ' ' ∈ (searchLine word query).toList := by simp [searchLine]
  have hwants : ∀ r, c.Wants r := by
    intro r
    rw [hline]
    exact ⟨nofun, nofun, nofun⟩
  have hfilter : filterFields c none (some query) = [("query", .text query)] := by
    rw [hline]
    rfl
  have hremembered : World.CanList
      { w with session := w.session.remember (searchLine word query) } := hcalls
  refine ⟨limited none (matching w c kind (some query)), fun r => ?_, ?_⟩
  · rw [limited, Option.elim, mem_matching hne]
    simp [hwants]
  · rw [perform_run (Command.trim_searchLine hword hquote) hblank hparse hverb (by decide)
      (Command.problem?_search hverb hentity hflags), ← hfilter]
    exact perform_dispatch_of_asks hasks (fun hempty => hne (Option.some.inj hempty)) hentity hlimit
      hremembered _

/-- A store in which a program with a title has been created. -/
def titled (title : String) : Store :=
  (Store.empty (.ofQueue []) {}).after [.create .program [("title", .text title)]]

/-- It has one record, with that title and without description. -/
lemma records_titled {title : String} (h : title ≠ "") :
    ∃ r, (titled title).records = [r] ∧ r.kind = .program ∧
      r.fields.value? "title" = some (.text title) ∧ r.fields.value? "description" = none := by
  have hgiven : (!(Store.fieldOrNull [("title", .text title)] "title").isGiven) = false := by
    simpa [Store.fieldOrNull, Entries.value?, Value.isGiven] using h
  have hnothing : Json.fault? 1 (.ofFields []) = none := rfl
  have hempty : ∀ d : Document, d.text = Json.render (.ofFields []) → d.fields = [] :=
    fun d hd => Document.fields_eq_reread hnothing hd
  have hcreated : ∃ r : Record, (titled title).records = [r] ∧ r.kind = .program ∧
      r.title = title ∧ r.parentId = none ∧ r.extra = [] := by
    unfold titled Store.after
    rw [List.foldl_cons, List.foldl_nil, Store.run, Store.create, hgiven]
    exact ⟨_, rfl, rfl, rfl, rfl, hempty _ rfl⟩
  obtain ⟨r, hrecords, hkind, htitle, hparent, hextra⟩ := hcreated
  refine ⟨r, hrecords, hkind, ?_, ?_⟩ <;>
  · unfold Record.fields Record.parent?
    rw [htitle, hparent, hextra]
    rfl

/-- A program whose title does not hold the query in lower case is not reported. -/
lemma perform_searchLine_titled {title : String} (htrim : Text.trim query = query) (hne : query ≠ "")
    (hquote : '"' ∉ query.toList) (hgiven : title ≠ "")
    (hmissed : ¬ Chars.lower query.toList <:+: Chars.lower title.toList) :
    let w : World := { store := titled title, session := {} }
    ∃ r, (titled title).records = [r] ∧ r.kind = .program ∧
      r.fields.value? "title" = some (.text title) ∧
      (run [] (searchLine "program" query)).perform w =
        (.ok .finished,
          reported { w with session := w.session.remember (searchLine "program" query) } .program
            (some query) [("query", .text query)] []) := by
  intro w
  obtain ⟨r, hrecords, hkind, htitle, hdescription⟩ := records_titled hgiven
  have hword : IsBare "program" := by decide
  have hprogram : Vocabulary.entity "program" = Entity.program.name := by decide +kernel
  have hcalls : w.CanList := ⟨rfl, rfl, rfl⟩
  have halias : Shortcut.Unaliased [] (searchLine "program" query) := rfl
  obtain ⟨printed, hprinted, hrun⟩ :=
    perform_searchLine htrim hne hquote hword hprogram halias hcalls
  have hnone : printed = [] := by
    rw [List.eq_nil_iff_forall_not_mem]
    intro q hq
    obtain ⟨hmem, -, name, hname, value, hvalue, -, hheld⟩ := (hprinted q).1 hq
    have hsame : q = r := by
      rw [hrecords] at hmem
      exact List.mem_singleton.1 hmem
    rw [hsame] at hvalue
    simp only [List.mem_cons, List.not_mem_nil, or_false] at hname
    rcases hname with rfl | rfl
    · rw [htitle] at hvalue
      obtain rfl := Option.some.inj hvalue
      exact hmissed hheld
    · rw [hdescription] at hvalue
      exact nomatch hvalue
  rw [hnone] at hrun
  exact ⟨r, hrecords, hkind, htitle, hrun⟩

/-- **The queries that a search finds wherever they stand.** For a query that is not empty, is trimmed
and has no quotes:

* if each of its sigmas is decided within it, a line that searches for it prints every record of the
  kind whose title or description holds it as it stands, whatever the store;
* otherwise there is a title which holds it as it stands, and the line prints no record of the store
  in which a program with this title has been created.

**Proof sketch.** The records that are printed are those that mention the query, both in lower case.
Settled pieces of texts are those that are found in every text around them (`Chars.settled_iff`). -/
theorem search_finds (htrim : Text.trim query = query) (hne : query ≠ "")
    (hquote : ∀ c ∈ query.toList, Token.isQuote c = false) :
    (Chars.Settled query.toList →
      ∀ (w : World) (aliases : Entries String) (word : String) (kind : Entity), w.CanList →
        IsBare word → Vocabulary.entity word = kind.name →
        Shortcut.Unaliased aliases (searchLine word query) →
        ∃ printed, (∀ r ∈ w.store.records, r.kind = kind → r.Holds query → r ∈ printed) ∧
          (run aliases (searchLine word query)).perform w =
            (.ok .finished,
              reported { w with session := w.session.remember (searchLine word query) } kind
                (some query) [("query", .text query)] printed)) ∧
      (¬ Chars.Settled query.toList →
        ∃ title r, (titled title).records = [r] ∧ r.kind = .program ∧ r.Holds query ∧
          let w : World := { store := titled title, session := {} }
          (run [] (searchLine "program" query)).perform w =
            (.ok .finished,
              reported { w with session := w.session.remember (searchLine "program" query) } .program
                (some query) [("query", .text query)] [])) := by
  have hmark : '"' ∉ query.toList := fun hmem => nomatch hquote _ hmem
  constructor
  · intro hsettled w aliases word kind hcalls hword hkind halias
    obtain ⟨printed, hprinted, hrun⟩ :=
      perform_searchLine htrim hne hmark hword hkind halias hcalls
    exact ⟨printed, fun r hr hrkind hholds =>
      (hprinted r).2 ⟨hr, hrkind, hholds.mentions hne hsettled⟩, hrun⟩
  · intro hunsettled
    rw [Chars.settled_iff, not_forall] at hunsettled
    obtain ⟨front, hunsettled⟩ := hunsettled
    rw [not_forall] at hunsettled
    obtain ⟨back, hmissed⟩ := hunsettled
    have hpart : query.toList <:+: (String.ofList (front ++ query.toList ++ back)).toList := by
      rw [String.toList_ofList]
      exact ⟨front, back, rfl⟩
    have hgiven : String.ofList (front ++ query.toList ++ back) ≠ "" := by
      intro hempty
      rw [hempty] at hpart
      exact hne (String.toList_eq_nil_iff.1 (List.infix_nil.1 hpart))
    rw [← String.toList_ofList (l := front ++ query.toList ++ back)] at hmissed
    obtain ⟨r, hrecords, hkind, htitle, hrun⟩ :=
      perform_searchLine_titled htrim hne hmark hgiven hmissed
    exact ⟨_, r, hrecords, hkind, ⟨"title", by simp, _, htitle, hpart⟩, hrun⟩

/-- A query with a sigma at each end of a word, the second one before a blank, is found in a title in
which another sigma follows it. -/
theorem search_finds_sophos :
    let w : World := { store := titled "Ο ΣΟΦΟΣ ΛΟΓΟΥΣ", session := {} }
    ∃ r printed, w.store.records = [r] ∧ r ∈ printed ∧
      (run [] (searchLine "PRG" "ΣΟΦΟΣ ΛΟΓΟΥ")).perform w =
        (.ok .finished,
          reported { w with session := w.session.remember (searchLine "PRG" "ΣΟΦΟΣ ΛΟΓΟΥ") } .program
            (some "ΣΟΦΟΣ ΛΟΓΟΥ") [("query", .text "ΣΟΦΟΣ ΛΟΓΟΥ")] printed) := by
  intro w
  have htrim : Text.trim "ΣΟΦΟΣ ΛΟΓΟΥ" = "ΣΟΦΟΣ ΛΟΓΟΥ" := by decide +kernel
  have hsettled : Chars.Settled "ΣΟΦΟΣ ΛΟΓΟΥ".toList := by decide +kernel
  have hword : Vocabulary.entity "PRG" = Entity.program.name := by decide +kernel
  have hpart : "ΣΟΦΟΣ ΛΟΓΟΥ".toList <:+: "Ο ΣΟΦΟΣ ΛΟΓΟΥΣ".toList := by decide +kernel
  have hgiven : "Ο ΣΟΦΟΣ ΛΟΓΟΥΣ" ≠ "" := by decide
  obtain ⟨r, hrecords, hkind, htitle, -⟩ := records_titled hgiven
  obtain ⟨hfinds, -⟩ := search_finds htrim (by decide) (by simp [Token.isQuote])
  obtain ⟨printed, hprinted, hrun⟩ :=
    hfinds hsettled w [] "PRG" .program ⟨rfl, rfl, rfl⟩ (by decide) hword rfl
  refine ⟨r, printed, hrecords, hprinted r ?_ hkind ⟨"title", by simp, _, htitle, hpart⟩, hrun⟩
  exact hrecords ▸ List.mem_singleton_self r

/-- A query that ends in a sigma is not found in a title in which it is followed by a letter. -/
theorem search_misses :
    let w : World := { store := titled "ΟΔΟΣΗΜΑ", session := {} }
    ∃ r, w.store.records = [r] ∧ r.kind = .program ∧ r.Holds "ΟΔΟΣ" ∧
      ((run [] "search program \"ΟΔΟΣ\"").perform w).2.lines =
        ["Programs matching \"ΟΔΟΣ\" (0):", "  No programs found."] := by
  intro w
  have htrim : Text.trim "ΟΔΟΣ" = "ΟΔΟΣ" := by decide +kernel
  have hmissed : ¬ Chars.lower "ΟΔΟΣ".toList <:+: Chars.lower "ΟΔΟΣΗΜΑ".toList := by decide +kernel
  obtain ⟨r, hrecords, hkind, htitle, hrun⟩ :=
    perform_searchLine_titled htrim (by decide) (by decide) (by decide) hmissed
  have hline : searchLine "program" "ΟΔΟΣ" = "search program \"ΟΔΟΣ\"" := by decide +kernel
  rw [hline] at hrun
  refine ⟨r, hrecords, hkind, ⟨"title", by simp, _, htitle, by decide⟩, ?_⟩
  rw [hrun]
  decide +kernel

end Shell

end TaskShell
